/-
The circuit breaker as a value: closed while calls succeed, open after enough
failures in a row, half open once it has cooled down. `ask` admits or rejects
a call; `succeed` and `fail` take in how an admitted call ended. Each also
tells the change of state it made.
-/
import CallGuard.Failure

namespace CallGuard

/-- The states of a breaker. -/
inductive CircuitState where
  | closed
  | opened
  | halfOpen
  deriving DecidableEq, Repr

namespace CircuitState

/-- The name of a state in the journal. -/
def label : CircuitState → String
  | closed => "CLOSED"
  | opened => "OPEN"
  | halfOpen => "HALF_OPEN"

/-- The name of a state in the breaker's description. -/
def name : CircuitState → String
  | closed => "Closed"
  | opened => "Open"
  | halfOpen => "HalfOpen"

end CircuitState

/-- A breaker went from one state to another. -/
structure CircuitChange where
  previous : CircuitState
  next : CircuitState
  deriving DecidableEq, Repr

/-- A breaker: its settings, its state, and what it has counted there. -/
structure Breaker where
  /-- Failures in a row that open a closed breaker. -/
  threshold : Nat
  /-- How long an open breaker rejects every call after the latest failure. -/
  resetTimeout : Nat
  state : CircuitState
  failures : Nat
  successes : Nat
  lastFailure : Option Nat
  threshold_pos : 0 < threshold
  resetTimeout_pos : 0 < resetTimeout
  deriving DecidableEq, Repr

namespace Breaker

/-- The threshold of a breaker for which none is set. -/
def defaultThreshold : Nat := 5

/-- The reset timeout of a breaker for which none is set: a minute. -/
def defaultResetTimeout : Nat := Span.ofSeconds 60

/-- Successes that close a half-open breaker. -/
def probesToClose : Nat := 2

/-- A closed breaker. A setting of zero stands for its default. -/
def new (threshold resetTimeout : Nat) : Breaker where
  threshold := if threshold = 0 then defaultThreshold else threshold
  resetTimeout := if resetTimeout = 0 then defaultResetTimeout else resetTimeout
  state := .closed
  failures := 0
  successes := 0
  lastFailure := none
  threshold_pos := by
    split
    · decide
    · exact Nat.pos_of_ne_zero ‹_›
  resetTimeout_pos := by
    split
    · decide
    · exact Nat.pos_of_ne_zero ‹_›

/-- Enters a state with both counts at zero; staying where it is changes
nothing. -/
def moveTo (b : Breaker) (next : CircuitState) : Breaker × Option CircuitChange :=
  if b.state = next then (b, none)
  else ({ b with state := next, failures := 0, successes := 0 }, some ⟨b.state, next⟩)

/-- An open breaker has cooled down once strictly more than its reset timeout
has passed since the latest failure. -/
def cooled (b : Breaker) (now : Nat) : Bool :=
  match b.lastFailure with
  | none => true
  | some failedAt => b.resetTimeout < now - failedAt

/-- Whether a call made now is admitted. The call that an open breaker admits
makes it half open. -/
def ask (b : Breaker) (now : Nat) : Bool × Breaker × Option CircuitChange :=
  match b.state with
  | .closed | .halfOpen => (true, b, none)
  | .opened => if b.cooled now then (true, b.moveTo .halfOpen) else (false, b, none)

/-- Takes in a success. -/
def succeed (b : Breaker) : Breaker × Option CircuitChange :=
  match b.state with
  | .halfOpen =>
    let b := { b with successes := b.successes + 1 }
    if probesToClose ≤ b.successes then b.moveTo .closed else (b, none)
  | .closed => ({ b with failures := 0 }, none)
  | .opened => (b, none)

/-- Takes in a failure. -/
def fail (b : Breaker) (now : Nat) : Breaker × Option CircuitChange :=
  let b := { b with failures := Word.clamp (b.failures + 1), lastFailure := some now }
  match b.state with
  | .closed => if b.threshold ≤ b.failures then b.moveTo .opened else (b, none)
  | .halfOpen => b.moveTo .opened
  | .opened => (b, none)

/-- The description of a breaker, with its state and settings. -/
def describe (b : Breaker) : String :=
  "CircuitBreaker \x7b state: " ++ b.state.name ++ ", failure_threshold: " ++ toString b.threshold ++
    ", reset_timeout: " ++ Span.text b.resetTimeout ++ " \x7d"

/-- The description of settings from which a breaker is made, before defaults
stand in for zeros; hooks only show whether they are set. -/
def describeSettings (threshold resetTimeout : Nat) (onChange onError : Bool) : String :=
  "CircuitBreakerConfig \x7b failure_threshold: " ++ toString threshold ++ ", reset_timeout: " ++
    Span.text resetTimeout ++ ", on_state_change: " ++ toString onChange ++ ", on_error: " ++
    toString onError ++ " \x7d"

end Breaker

end CallGuard
