/-
The reporter: writes the counters to the journal, at once and then once every
interval, with the rate at which items came to an outcome since the last
report, until its scope ends.
-/
import CallGuard.Operation
import CallGuard.Rounding

namespace CallGuard.Processor

open Rounding (Fraction)

/-- Items a second: every step of the reckoning is rounded to a number of 53
binary digits. -/
def throughput (processed elapsed : Nat) : String :=
  if elapsed = 0 then "0.00"
  else
    let whole := (Fraction.mk (elapsed / Span.ofSeconds 1) 1).toBinary
    let part := (Fraction.mk (elapsed % Span.ofSeconds 1) (Span.ofSeconds 1)).toBinary
    let seconds := (whole.add part).toBinary
    ((Fraction.mk processed 1).toBinary.div seconds).toBinary.twoPlaces

/-- What a reporter is at. -/
inductive Reporter.Phase where
  | fresh
  /-- The latest report was at `since`, with these counts; the next is due. -/
  | waiting (counted : Counters) (since due : Nat)
  | finished

/-- A reporter with its interval and the scope that ends it. -/
structure Reporter where
  interval : Nat
  scope : Scope
  phase : Reporter.Phase

namespace Reporter

/-- A reporter that has reported nothing yet. -/
def new (interval : Nat) (scope : Scope) : Reporter := ⟨interval, scope, .fresh⟩

/-- Whether a reporter has come to its end. -/
def isFinished (r : Reporter) : Bool :=
  match r.phase with
  | .finished => true
  | .fresh | .waiting _ _ _ => false

/-- One step of a reporter, if there is one to make now. Counting begins with
its first step; an interval of zero is of no use, and ends it there. -/
def step {S : Type} (now : Nat) (counters : Counters) (depth : Nat) (r : Reporter) (w : Setting S) :
    Option (Reporter × Setting S) :=
  match r.phase with
  | .fresh =>
    some ({ r with phase := if r.interval = 0 then .finished else .waiting counters now now }, w)
  | .waiting counted since due =>
    if (r.scope.ended? w.signals now).isSome then
      some ({ r with phase := .finished }, w.log .reporterStopped)
    else if due ≤ now then
      let rate := throughput (counters.processed - counted.processed) (now - since)
      some ({ r with phase := .waiting counters now (Instant.pauseEnd due r.interval) },
        w.log (.metrics rate depth counters))
    else none
  | .finished => none

/-- The instants for which a reporter waits. -/
def dues (r : Reporter) : List Nat :=
  match r.phase with
  | .waiting _ _ due => due :: r.scope.deadline.toList
  | .fresh | .finished => []

end Reporter

end CallGuard.Processor
