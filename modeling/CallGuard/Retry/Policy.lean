/-
Retry policies: pauses that grow by a fixed step up to a cap, within a total
budget of time.
-/
import CallGuard.Clock

namespace CallGuard.Retry

/-- How long to pause between tries, and how long to go on with them. -/
structure Policy where
  /-- Time for all tries together. -/
  budget : Nat
  initial : Nat
  cap : Nat
  step : Nat
  initial_le_cap : initial ≤ cap
  deriving DecidableEq, Repr

namespace Policy

/-- A cap below the first pause is raised to it. -/
def new (budget initial cap step : Nat) : Policy :=
  ⟨budget, initial, max cap initial, step, Nat.le_max_right ..⟩

/-- The policy where none is chosen. -/
def standard : Policy :=
  new (Span.ofSeconds 30) (Span.ofMillis 100) (Span.ofMillis 1000) (Span.ofMillis 100)

/-- The pause after the next failure. -/
def next (p : Policy) (pause : Nat) : Nat := min (Span.add pause p.step) p.cap

/-- The next `count` pauses. -/
def pausesFrom (p : Policy) (pause : Nat) : (count : Nat) → List Nat
  | 0 => []
  | count + 1 => p.next pause :: p.pausesFrom (p.next pause) count

end Policy

end CallGuard.Retry
