/-
A chain as seen from outside: it tells the next sequence number of an account,
and takes a transaction only if it carries that number.
-/
import CallGuard.Operation
import CallGuard.Sequence.Tracker

namespace CallGuard

/-- A remote chain with one account, as its callers find it. -/
structure Chain where
  account : Nat
  /-- The number that the next transaction has to carry. -/
  sequence : Nat
  outage : Bool
  /-- How long a fetch takes. -/
  fetchDelay : Nat
  fetches : Nat
  broadcasts : Nat

namespace Chain

open Sequence (Record)

/-- Other transactions use up sequence numbers, which have 64 bits. -/
def spend (c : Chain) (count : Nat) : Chain := { c with sequence := Word.wrap (c.sequence + count) }

/-- The failure of whoever calls during an outage. -/
def refused : Failure := .plain "connection refused"

/-- The failure of a transaction with the wrong number. -/
def mismatch (expected got : Nat) : Failure :=
  .plain ("account sequence mismatch, expected " ++ toString expected ++ ", got " ++ toString got)

/-- Sends a transaction that carries a sequence number. -/
def broadcast (c : Chain) (sequence : Nat) : Outcome Nat × Chain :=
  let c := { c with broadcasts := c.broadcasts + 1 }
  if c.outage then (.failure refused, c)
  else if sequence = c.sequence then (.value sequence, c.spend 1)
  else (.failure (mismatch c.sequence sequence), c)

/-- What the chain tells of the account. -/
def look (c : Chain) : Outcome Record :=
  if c.outage then .failure refused else .value ⟨c.sequence, c.account⟩

/-- Fetches the account's record. A fetch that takes time ends with its
scope. -/
def fetching : Operation Chain Unit (Scope × Nat) Record where
  start _ _ scope now w :=
    let w := { w with site := { w.site with fetches := w.site.fetches + 1 } }
    if w.site.fetchDelay = 0 then (w, .finished w.site.look)
    else
      match scope.ended? w.signals now with
      | some reason => (w, .finished (.failure (.scope reason)))
      | none => (w, .waiting (scope, Instant.pauseEnd now w.site.fetchDelay))
  resume now s w :=
    match s.1.ended? w.signals now with
    | some reason => some (w, .finished (.failure (.scope reason)))
    | none => if s.2 ≤ now then some (w, .finished w.site.look) else none
  drop _ w := w
  dues s := s.2 :: s.1.deadline.toList

/-- A transaction: how long it takes to prepare, and the sequence number it
carries. -/
structure Transaction where
  delay : Nat
  sequence : Nat

/-- Broadcasts a transaction with a number, and waits for nothing. -/
def send (sequence : Nat) (w : Setting Chain) : Setting Chain × Outcome Nat :=
  let (outcome, c) := w.site.broadcast sequence
  ({ w with site := c }, outcome)

/-- Prepares a transaction and sends it. -/
def sending : Operation Chain Transaction (Nat × Nat) Nat where
  start t _ _ now w :=
    if t.delay = 0 then
      let (w, outcome) := send t.sequence w
      (w, .finished outcome)
    else (w, .waiting (Instant.pauseEnd now t.delay, t.sequence))
  resume now s w :=
    if s.1 ≤ now then
      let (w, outcome) := send s.2 w
      some (w, .finished outcome)
    else none
  drop _ w := w
  dues s := [s.1]

end Chain

end CallGuard
