/-
A tracker over time: callers come, one after the other or side by side, some go
away again, and the source of sequences follows a script. A caller on the side
makes a request or just pauses.
-/
import CallGuard.Behaviour
import CallGuard.Scenario.Plan
import CallGuard.Sequence.Tracker
import CallGuard.Timeline

namespace CallGuard.Scenario

open Sequence (Record Request Answer Pacing Tracker)

/-- The source follows its script: fetch `n` behaves as entry `n` says. The
site counts fetches that came to an answer. -/
def scriptedSource (script : Script Record) : Operation Nat Unit (Scope × Activity Record) Record :=
  .scripted (fun _ n => script.entry n) (fun _ _ ended => ended) fun outcome ended =>
    match outcome with
    | .value _ | .failure _ => ended + 1
    | .panic _ => ended

/-- What a caller on the side does. -/
inductive Errand where
  | asking (ticket : Nat)
  | pausing (due : Nat)

/-- A caller of a tracker, and what it came for. -/
structure Caller where
  name : String
  /-- Whether the name means this caller, who can then be sent away by it. A name
  means the latest caller that was given it. -/
  named : Bool
  errand : Errand

/-- What came of a caller on the side: an answer, or the end of a pause. -/
structure News where
  name : String
  time : Nat
  answer : Option Answer

/-- A tracker in a scenario, with its callers. -/
structure Tracking (S σ : Type) where
  now : Nat
  setting : Setting S
  tracker : Tracker σ
  source : Operation S Unit σ Record
  alarms : Alarms
  /-- Callers side by side, the first first. -/
  callers : List Caller
  /-- How many replies were told already. -/
  told : Nat
  /-- Pauses that are over and were not told yet. -/
  rested : List News

namespace Tracking

variable {S σ : Type}

/-- A tracker of which nothing was asked yet. -/
def new (pacing : Pacing) (source : Operation S Unit σ Record) (site : S) : Tracking S σ :=
  ⟨0, ⟨.empty, [], site⟩, .new pacing, source, [], [], 0, []⟩

/-- The tracker makes a step. -/
def put (s : Tracking S σ) (p : Tracker σ × Setting S) : Tracking S σ :=
  { s with tracker := p.1, setting := p.2 }

/-- The steps of a tracker and its fetches, with alarms beside them. -/
def machine : Machine (Tracking S σ) where
  step now s :=
    ((s.tracker.grant? now s.setting).map s.put) <|>
    ((s.alarms.step now s.setting.signals).map fun (alarms, signals) =>
      { s with alarms := alarms, setting := { s.setting with signals := signals } }) <|>
    ((s.tracker.conclude? s.source now s.setting).map s.put) <|>
    ((s.tracker.fetchStep? s.source now s.setting).map s.put)
  dues s := s.tracker.dues s.source ++ s.alarms.dues

/-- The pauses whose due time satisfies `isPast` end. -/
def rouse (isPast : Nat → Bool) (s : Tracking S σ) : Tracking S σ :=
  let (up, callers) := s.callers.partition fun c =>
    match c.errand with
    | .asking _ => false
    | .pausing due => isPast due
  let news := up.filterMap fun c =>
    match c.errand with
    | .asking _ => none
    | .pausing due => some (News.mk c.name due none)
  { s with callers := callers, rested := s.rested ++ news }

/-- Waits until `goal` holds or until `limit`. Who pauses on the side gets up
after whoever else is woken at the same instant, so a pause that is due when the
wait ends is not over yet, unless it was due when the wait began. -/
def wait (goal : Tracking S σ → Bool) (limit : Nat) (s : Tracking S σ) : Tracking S σ :=
  let (now, later) := machine.run goal limit s.now s
  { later with now := now }.rouse fun due => due ≤ s.now || due < now

/-- Lets everything happen that can happen now. -/
def settle (s : Tracking S σ) : Tracking S σ := s.wait (fun _ => false) s.now

/-- Lets time pass. -/
def advance (s : Tracking S σ) (d : Nat) : Tracking S σ :=
  s.wait (fun _ => false) (Instant.pauseEnd s.now d)

/-- Makes a planned scope. -/
def scope (s : Tracking S σ) (plan : ScopePlan) : Scope × Tracking S σ :=
  let (scope, alarms, signals) := plan.make s.now s.setting.signals
  (scope, { s with alarms := s.alarms ++ alarms, setting := { s.setting with signals := signals } })

/-- Makes a request and waits for the answer, if it is not there at once and
ever comes. -/
def ask (s : Tracking S σ) (r : Request) : Option Answer × Tracking S σ :=
  let (ticket, tracker) := s.tracker.request r
  let s := { s with tracker := tracker }
  let s := ((s.tracker.grant? s.now s.setting).map s.put).getD s
  match s.tracker.reply? ticket with
  | some answer => (some answer, s)
  | none =>
    let s := s.wait (fun s => (s.tracker.reply? ticket).isSome) Instant.limit
    (s.tracker.reply? ticket, s)

/-- Frees a name. Its caller, if there is one, lives on without it. -/
def free (s : Tracking S σ) (name : String) : Tracking S σ :=
  { s with callers := s.callers.map fun c => if c.name == name then { c with named := false } else c }

/-- A caller comes who goes on side by side with all others. -/
def enter (s : Tracking S σ) (name : String) (errand : Errand) : Tracking S σ :=
  let s := s.free name
  { s with callers := s.callers ++ [⟨name, true, errand⟩] }

/-- Makes a request on the side. -/
def spawn (s : Tracking S σ) (name : String) (r : Request) : Tracking S σ :=
  let (ticket, tracker) := s.tracker.request r
  ({ s with tracker := tracker }.enter name (.asking ticket)).settle

/-- Begins a pause on the side. -/
def spawnPause (s : Tracking S σ) (name : String) (d : Nat) : Tracking S σ :=
  s.settle.enter name (.pausing (Instant.tick (Instant.pauseEnd s.now d)))

/-- The caller that a name means goes away. -/
def abort (s : Tracking S σ) (name : String) : Tracking S σ :=
  let (gone, callers) := s.callers.partition fun c => c.named && c.name == name
  let tracker := gone.foldl (fun (t : Tracker σ) (c : Caller) =>
    match c.errand with
    | .asking ticket => t.abandon ticket
    | .pausing _ => t) s.tracker
  { s with callers := callers, tracker := tracker }.settle

/-- The name of the caller who was given a ticket, if that was a caller on the
side. -/
def holder? (s : Tracking S σ) (ticket : Nat) : Option String :=
  s.callers.findSome? fun c =>
    match c.errand with
    | .asking t => if t = ticket then some c.name else none
    | .pausing _ => none

/-- What came of callers on the side since this was last asked: answers in their
order, and then pauses. -/
def takeNews (s : Tracking S σ) : List News × Tracking S σ :=
  let replies := s.tracker.replies
  let latest := (replies.take (replies.length - s.told)).reverse
  let answers := latest.filterMap fun r =>
    (s.holder? r.ticket).map fun name => News.mk name r.time (some r.answer)
  (answers ++ s.rested, { s with told := replies.length, rested := [] })

/-- The first refetch of a new tracker: the failure, if it fails. -/
def initialRefetch (s : Tracking S σ) (plan : ScopePlan) : Option (Except Failure Unit) × Tracking S σ :=
  let (scope, s) := s.scope plan
  match s.ask (.refetch scope) with
  | (some (.refetched (.ok _)), s) => (some (.ok ()), s)
  | (some (.refetched (.error f)), s) =>
    (some (.error (.context "failed to force refetch sequence for new tracker" f)), s)
  | (_, s) => (none, s)

end Tracking

end CallGuard.Scenario
