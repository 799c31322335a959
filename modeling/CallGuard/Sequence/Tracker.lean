/-
A sequence tracker: hands out one account's sequence numbers in order, and
fetches the next one anew when it is told to, though not too often.

The tracker serves one request at a time, in the order in which they were
made. A refetch keeps the tracker busy until its fetch has ended or its scope
has; everybody else waits. The fetch is work of its own: it stops when its
refetch gives up, but goes on, unattended, when the caller of the refetch goes
away.
-/
import CallGuard.Race
import CallGuard.Sequence.Pacing
import CallGuard.Text.Quoted

namespace CallGuard.Sequence

/-- The next sequence number of an account, with the account's number. -/
structure Record where
  sequence : Nat
  account : Nat
  deriving DecidableEq, Repr

/-- The record after this one; there is none after the last. -/
def Record.next (r : Record) : Record := { r with sequence := Word.clamp (r.sequence + 1) }

/-- What a caller can ask for. -/
inductive Request where
  | next
  | current
  | lastRefetch
  | overwrite (sequence : Nat)
  | refetch (scope : Scope)

/-- What a caller can be told. -/
inductive Answer where
  | record (r : Record)
  | time (t : Option Nat)
  | overwritten
  | refetched (r : Except Failure Record)

/-- What a caller was answered, and when. -/
structure Reply where
  ticket : Nat
  time : Nat
  answer : Answer

/-- What a fetch is at. -/
inductive Fetch (σ : Type) where
  /-- About to begin. -/
  | due
  | running (s : σ)
  | ended (outcome : Outcome Record)

/-- A refetch that has its fetch: whose it is, and the scope of the fetch. -/
structure Refetch (σ : Type) where
  ticket : Nat
  scope : Scope
  fetch : Fetch σ

/-- A tracker with all who have asked it for something. -/
structure Tracker (σ : Type) where
  pacing : Pacing
  record : Record
  refetchedAt : Option Nat
  /-- No sequence number was handed out yet. -/
  untouched : Bool
  /-- Requests not yet served, the oldest first. -/
  waiting : List (Nat × Request)
  /-- The refetch that keeps the tracker busy. -/
  busy : Option (Refetch σ)
  /-- Refetches whose callers went away while their fetches ran. -/
  strays : List (Refetch σ)
  /-- Fetches begun so far. -/
  started : Nat
  /-- Tickets given out so far. -/
  tickets : Nat
  /-- The answers so far, the latest first. -/
  replies : List Reply

namespace Tracker

variable {S σ : Type}

/-- A tracker of which nothing was asked yet. -/
def new (pacing : Pacing) : Tracker σ := ⟨pacing, ⟨0, 0⟩, none, true, [], none, [], 0, 0, []⟩

/-- The description of a tracker. -/
def describe (t : Tracker σ) : String :=
  "NonceTracker \x7b config: " ++ t.pacing.describe ++ ", .. \x7d"

/-- Joins the queue. -/
def request (t : Tracker σ) (r : Request) : Nat × Tracker σ :=
  (t.tickets, { t with waiting := t.waiting ++ [(t.tickets, r)], tickets := t.tickets + 1 })

/-- What the caller with a ticket was told, if it was. -/
def reply? (t : Tracker σ) (ticket : Nat) : Option Answer :=
  (t.replies.find? (·.ticket == ticket)).map (·.answer)

/-- Tells a caller its answer. -/
def reply (t : Tracker σ) (ticket now : Nat) (answer : Answer) : Tracker σ :=
  { t with replies := ⟨ticket, now, answer⟩ :: t.replies }

/-- How long ago the last refetch succeeded, if that is too short a time for
another. -/
def tooSoon? (t : Tracker σ) (now : Nat) : Option Nat :=
  t.refetchedAt.bind fun last =>
    if now - last ≤ t.pacing.interval then some (now - last) else none

/-- A refetch gives up on its fetch, because of the end of a scope. -/
def giveUp (t : Tracker σ) (ticket : Nat) (scope : Scope) (reason : ScopeEnd) (now : Nat)
    (w : Setting S) : Tracker σ × Setting S :=
  ({ t with busy := none }.reply ticket now (.refetched (.error (.fetchEnded reason))),
    { w with signals := w.signals.raise scope.token }.log (.refetchIncomplete reason.text))

/-- Begins a refetch, unless it is too soon for one. The fetch has a scope of
its own below the caller's; if that has already ended there is no fetch. -/
def beginRefetch (t : Tracker σ) (ticket : Nat) (scope : Scope) (now : Nat) (w : Setting S) :
    Tracker σ × Setting S :=
  match t.tooSoon? now with
  | some elapsed =>
    (t.reply ticket now (.refetched (.error (.throttled elapsed t.pacing.interval))),
      w.log (.refetchThrottled elapsed t.pacing.interval))
  | none =>
    let (own, signals) := scope.withTimeout t.pacing.timeout now w.signals
    let w := { w with signals := signals }
    match own.ended? signals now with
    | some reason => t.giveUp ticket own reason now w
    | none => ({ t with busy := some ⟨ticket, own, .due⟩ }, w)

/-- Serves a request. All but a refetch are answered at once. -/
def serve (t : Tracker σ) (ticket : Nat) (now : Nat) (w : Setting S) :
    Request → Tracker σ × Setting S
  | .next =>
    let record := if t.untouched then t.record else t.record.next
    ({ t with record := record, untouched := false }.reply ticket now (.record record),
      w.log (.sequenceHandedOut record.sequence))
  | .current => (t.reply ticket now (.record t.record), w)
  | .lastRefetch => (t.reply ticket now (.time t.refetchedAt), w)
  | .overwrite sequence =>
    ({ t with record := { t.record with sequence := sequence } }.reply ticket now .overwritten,
      w.log (.sequenceUpdated t.record.sequence sequence))
  | .refetch scope => t.beginRefetch ticket scope now w

/-- Serves the oldest request, if the tracker is not busy. -/
def grant? (now : Nat) (t : Tracker σ) (w : Setting S) : Option (Tracker σ × Setting S) :=
  match t.busy, t.waiting with
  | none, (ticket, request) :: waiting => some ({ t with waiting := waiting }.serve ticket now w request)
  | _, _ => none

/-- What is said of a fetch that panicked. -/
def panicText : Option String → String
  | some message => "sequence fetch task failed: task # panicked with message " ++ Text.quoted message
  | none => "sequence fetch task failed: task # panicked"

/-- Takes in what the fetch of a refetch ended with. -/
def complete (t : Tracker σ) (ticket now : Nat) (w : Setting S) :
    Outcome Record → Tracker σ × Setting S
  | .value record =>
    ({ t with busy := none, record := record, refetchedAt := some now }.reply ticket now
        (.refetched (.ok record)),
      w.log (.sequenceRefetched record.sequence record.account))
  | .failure f =>
    ({ t with busy := none }.reply ticket now (.refetched (.error (.fetchFailed f))), w)
  | .panic message =>
    ({ t with busy := none }.reply ticket now
      (.refetched (.error (.fetchFailed (.plain (panicText message))))), w)

/-- Ends the refetch under way, if it is over: its scope has ended, or else its
fetch has. -/
def conclude? (source : Operation S Unit σ Record) (now : Nat) (t : Tracker σ) (w : Setting S) :
    Option (Tracker σ × Setting S) :=
  t.busy.bind fun r =>
    match r.fetch, r.scope.ended? w.signals now with
    | .due, _ => none
    | .running s, some reason => some (t.giveUp r.ticket r.scope reason now (source.drop s w))
    | .ended _, some reason => some (t.giveUp r.ticket r.scope reason now w)
    | .running _, none => none
    | .ended outcome, none => some (t.complete r.ticket now w outcome)

/-- Takes in how far a fetch has come. -/
def proceed (r : Refetch σ) : Setting S × Progress σ (Outcome Record) → Refetch σ × Setting S
  | (w, .waiting s) => ({ r with fetch := .running s }, w)
  | (w, .finished outcome) => ({ r with fetch := .ended outcome }, w)

/-- A fetch begins or goes on, if it can. Also tells how many were begun
then. -/
def fetch? (source : Operation S Unit σ Record) (now started : Nat) (r : Refetch σ)
    (w : Setting S) : Option (Nat × Refetch σ × Setting S) :=
  match r.fetch with
  | .due => some (started + 1, proceed r (source.start () (started + 1) r.scope now w))
  | .running s => (source.resume now s w).map fun p => (started, proceed r p)
  | .ended _ => none

/-- The first of several fetches that can goes on. -/
def fetchAny? (source : Operation S Unit σ Record) (now started : Nat) (w : Setting S) :
    List (Refetch σ) → Option (Nat × List (Refetch σ) × Setting S)
  | [] => none
  | r :: rest =>
    match fetch? source now started r w with
    | some (started, r, w) => some (started, r :: rest, w)
    | none =>
      (fetchAny? source now started w rest).map fun (started, rest, w) => (started, r :: rest, w)

/-- One step of a fetch, of the refetch under way or of one left behind. -/
def fetchStep? (source : Operation S Unit σ Record) (now : Nat) (t : Tracker σ) (w : Setting S) :
    Option (Tracker σ × Setting S) :=
  match t.busy.bind (fetch? source now t.started · w) with
  | some (started, r, w) => some ({ t with busy := some r, started := started }, w)
  | none =>
    (fetchAny? source now t.started w t.strays).map fun (started, strays, w) =>
      ({ t with strays := strays, started := started }, w)

/-- A caller goes away. Its fetch, if it has one, goes on without it. -/
def abandon (t : Tracker σ) (ticket : Nat) : Tracker σ :=
  let t := { t with waiting := t.waiting.filter (·.1 != ticket) }
  match t.busy with
  | some r => if r.ticket = ticket then { t with busy := none, strays := t.strays ++ [r] } else t
  | none => t

/-- The instants for which a fetch waits. -/
def fetchDues (source : Operation S Unit σ Record) (r : Refetch σ) : List Nat :=
  match r.fetch with
  | .running s => source.dues s
  | .due | .ended _ => []

/-- The instants for which refetches and fetches wait. -/
def dues (source : Operation S Unit σ Record) (t : Tracker σ) : List Nat :=
  t.busy.toList.flatMap (fun r => r.scope.deadline.toList ++ fetchDues source r) ++
    t.strays.flatMap (fetchDues source)

end Tracker

end CallGuard.Sequence
