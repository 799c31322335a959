/-
Calls on one circuit over time. A call is made from beginning to end, or is
begun now and finished or dropped later, with other calls in between.
-/
import CallGuard.Breaker.Circuit

namespace CallGuard.Scenario

/-- A circuit in a scenario, with its hooks. -/
structure Calls where
  circuit : Circuit
  hooks : Circuit.Hooks
  /-- Calls that were admitted and have not ended. -/
  pending : List String

namespace Calls

/-- A circuit that nobody has used yet. -/
def new (breaker : Breaker) (hooks : Circuit.Hooks) : Calls := ⟨⟨breaker, 0, [], []⟩, hooks, []⟩

/-- A hook may make a call while no other hook makes one. -/
def listener (s : Calls) : Circuit.Listener := Circuit.runHooks s.hooks 1

/-- Makes a call from beginning to end. -/
def call (s : Calls) (c : Call) : CallReply × Calls :=
  let (reply, circuit) := s.circuit.perform s.listener c
  (reply, { s with circuit := circuit })

/-- Begins a call: whether it was admitted. -/
def start (s : Calls) (id : String) : Bool × Calls :=
  let (admitted, circuit) := s.circuit.ask s.listener
  let s := { s with circuit := circuit }
  (admitted, if admitted then { s with pending := id :: s.pending.erase id } else s)

/-- Ends a call that was begun; no answer if there is none of that name. -/
def finish (s : Calls) (id : String) (outcome : Outcome Nat) : Option CallResult × Calls :=
  if s.pending.contains id then
    (some (Circuit.resultOf outcome),
      { s with pending := s.pending.erase id, circuit := s.circuit.conclude s.listener outcome })
  else (none, s)

/-- Abandons a call that was begun: whether there was one. -/
def drop (s : Calls) (id : String) : Bool × Calls :=
  (s.pending.contains id, { s with pending := s.pending.erase id })

/-- Lets time pass. -/
def advance (s : Calls) (d : Nat) : Calls :=
  { s with circuit := { s.circuit with now := s.circuit.now + d } }

/-- What hooks did since this was last asked, in order. -/
def takeEvents (s : Calls) : List HookEvent × Calls :=
  (s.circuit.events.reverse, { s with circuit := { s.circuit with events := [] } })

end Calls

end CallGuard.Scenario
