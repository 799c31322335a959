/-
Submissions: transactions sent through a breaker, with sequence numbers from a
tracker. A transaction that the chain turns down because of its number may be
sent once more, with a number fetched anew.
-/
import CallGuard.Breaker.Guarded
import CallGuard.Chain
import CallGuard.Text.Lowercase

namespace CallGuard

/-- Where submissions are made: the tracker, and the chain behind its breaker. -/
structure Desk where
  tracker : Sequence.Tracker (Scope × Nat)
  line : Guarded Chain

namespace Desk

/-- The chain behind the breaker. -/
def chain (d : Desk) : Chain := d.line.site

/-- Another line to the chain. -/
def putLine (line : Guarded Chain) (d : Desk) : Desk := { d with line := line }

/-- Another chain behind the same breaker. -/
def putChain (chain : Chain) (d : Desk) : Desk := { d with line := { d.line with site := chain } }

/-- One step of the tracker, which also sees the chain. -/
def track (f : Sequence.Tracker (Scope × Nat) → Setting Chain →
      Option (Sequence.Tracker (Scope × Nat) × Setting Chain)) (w : Setting Desk) :
    Option (Setting Desk) :=
  (f w.site.tracker ⟨w.signals, w.journal, w.site.chain⟩).map fun (tracker, inner) =>
    ⟨inner.signals, inner.journal, { w.site with tracker := tracker }.putChain inner.site⟩

/-- The tracker serves who is waiting for it. -/
def serve (now : Nat) (w : Setting Desk) : Option (Setting Desk) := track (·.grant? now) w

/-- A refetch ends, if it is over. -/
def conclude (now : Nat) (w : Setting Desk) : Option (Setting Desk) :=
  track (·.conclude? Chain.fetching now) w

/-- A fetch goes on by itself. -/
def fetch (now : Nat) (w : Setting Desk) : Option (Setting Desk) :=
  track (·.fetchStep? Chain.fetching now) w

/-- Makes a request of the tracker, which serves it at once if it can. -/
def ask (request : Sequence.Request) (now : Nat) (w : Setting Desk) : Nat × Setting Desk :=
  let (ticket, tracker) := w.site.tracker.request request
  let w := { w with site := { w.site with tracker := tracker } }
  (ticket, (serve now w).getD w)

/-- The tracker is told that a caller went away. -/
def abandon (ticket : Nat) (w : Setting Desk) : Setting Desk :=
  { w with site := { w.site with tracker := w.site.tracker.abandon ticket } }

end Desk

namespace Submission

/-- What a submission waits for. -/
inductive Stage where
  /-- A sequence number. -/
  | numbering (ticket delay : Nat)
  | sending (s : Nat × Nat)
  /-- A fresh sequence number. -/
  | renumbering (ticket : Nat)

/-- Whether a failure tells that the sequence number was wrong. -/
def isMismatch (f : Failure) : Bool := Text.occursIn "sequence mismatch".toList f.text.toList

/-- Changes of the breaker's state are noted. -/
def hooks : Circuit.Hooks := ⟨true, false, fun _ => none⟩

/-- Sending a transaction through the breaker. -/
def sending : Operation Desk Chain.Transaction (Nat × Nat) Nat :=
  (Chain.sending.guarded hooks).within Desk.line Desk.putLine

/-- Sends the transaction with a fresh number, past the breaker. -/
def renumbered (ticket : Nat) (w : Setting Desk) : Setting Desk × Progress Stage (Outcome Nat) :=
  match w.site.tracker.reply? ticket with
  | some (.refetched (.ok record)) =>
    let (w, outcome) := Setting.zoom Desk.chain Desk.putChain (Chain.send record.sequence) w
    (w, .finished outcome)
  | some (.refetched (.error f)) => (w, .finished (.failure f))
  | _ => (w, .waiting (.renumbering ticket))

/-- Takes in how the first sending went. -/
def sent (resync : Bool) (scope : Scope) (now : Nat) :
    Setting Desk × Progress (Nat × Nat) (Outcome Nat) →
      Setting Desk × Progress Stage (Outcome Nat)
  | (w, .waiting s) => (w, .waiting (.sending s))
  | (w, .finished (.failure f)) =>
    if resync && isMismatch f then
      let (ticket, w) := Desk.ask (.refetch scope) now w
      renumbered ticket w
    else (w, .finished (.failure f))
  | (w, .finished outcome) => (w, .finished outcome)

/-- Sends the transaction, once its number is there. -/
def numbered (resync : Bool) (scope : Scope) (now ticket delay : Nat) (w : Setting Desk) :
    Setting Desk × Progress Stage (Outcome Nat) :=
  match w.site.tracker.reply? ticket with
  | some (.record record) =>
    sent resync scope now (sending.start ⟨delay, record.sequence⟩ 1 scope now w)
  | _ => (w, .waiting (.numbering ticket delay))

/-- A stage with the scope that it goes on in. -/
def keepScope (scope : Scope) (p : Setting Desk × Progress Stage (Outcome Nat)) :
    Setting Desk × Progress (Scope × Stage) (Outcome Nat) :=
  (p.1, p.2.map (scope, ·) id)

/-- Submits a transaction, given how long it takes to prepare. With `resync`, a
wrong number is fetched anew. -/
def submitting (resync : Bool) : Operation Desk Nat (Scope × Stage) Nat where
  start delay _ scope now w :=
    let (ticket, w) := Desk.ask .next now w
    keepScope scope (numbered resync scope now ticket delay w)
  resume now s w :=
    match s.2 with
    | .numbering ticket delay =>
      if (w.site.tracker.reply? ticket).isSome then
        some (keepScope s.1 (numbered resync s.1 now ticket delay w))
      else none
    | .sending t => (sending.resume now t w).map fun p => keepScope s.1 (sent resync s.1 now p)
    | .renumbering ticket =>
      let w := (Desk.conclude now w).getD w
      if (w.site.tracker.reply? ticket).isSome then some (keepScope s.1 (renumbered ticket w))
      else none
  drop s w :=
    match s.2 with
    | .numbering ticket _ | .renumbering ticket => Desk.abandon ticket w
    | .sending t => sending.drop t w
  dues s :=
    match s.2 with
    | .sending t => sending.dues t
    | .numbering _ _ | .renumbering _ => []

end Submission

end CallGuard
