/-
Time that passes: machines make steps of their own at an instant until they
have to wait, and the clock then moves to the next instant at which one of
their waits is due. Instants are visited on the millisecond grid only.
-/
import CallGuard.Clock

namespace CallGuard

/-- Something that runs by itself: the step it can make at an instant, if any,
and the instants for which it waits. -/
structure Machine (M : Type) where
  step : Nat → M → Option M
  dues : M → List Nat

namespace Machine

variable {M : Type}

/-- The most steps that are made at one instant. -/
def patience : Nat := 10000000

/-- Steps at an instant until there is none left to make, at most `n`. -/
def steps (m : Machine M) (now : Nat) : (n : Nat) → M → M
  | 0, s => s
  | n + 1, s =>
    match m.step now s with
    | some s => m.steps now n s
    | none => s

/-- Lets everything happen that can happen now. -/
def settle (m : Machine M) (now : Nat) (s : M) : M := m.steps now patience s

/-- The instant at which the machine is woken next, after `now`. -/
def wake? (m : Machine M) (now : Nat) (s : M) : Option Nat :=
  ((m.dues s).filter (now < ·)).foldl (fun soonest due => earlier soonest (some (Instant.tick due))) none

/-- Runs at most `n` instants beyond `now`, until `goal` holds of a machine at
rest or the clock is about to pass `limit`. -/
def visit (m : Machine M) (goal : M → Bool) (limit : Nat) : (n : Nat) → Nat → M → Nat × M
  | 0, now, s => (now, m.settle now s)
  | n + 1, now, s =>
    let s := m.settle now s
    if goal s then (now, s)
    else
      match m.wake? now s with
      | some next => if next ≤ limit then m.visit goal limit n next s else (limit, s)
      | none => (limit, s)

/-- Runs from `now` until `goal` holds of the machine at rest, or else until
`limit` by the clock's grid. Each instant visited is a whole millisecond later
than the one before. -/
def run (m : Machine M) (goal : M → Bool) (limit now : Nat) (s : M) : Nat × M :=
  let limit := max now (Instant.tick limit)
  m.visit goal limit ((limit - now) / 1000000 + 1) now s

/-- Lets a span of time pass, as a pause. -/
def advance (m : Machine M) (d now : Nat) (s : M) : Nat × M :=
  m.run (fun _ => false) (Instant.pauseEnd now d) now s

end Machine

end CallGuard
