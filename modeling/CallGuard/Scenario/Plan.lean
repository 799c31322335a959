/-
Planned scopes and cancellations: a scope for one piece of work, made when it
is needed, and the cancellations that will happen by themselves.
-/
import CallGuard.Scope

namespace CallGuard.Scenario

/-- Cancellations to come, each at its instant. -/
abbrev Alarms := List (Nat × Token)

namespace Alarms

/-- The cancellations that are due happen, every one of them, if there are any. -/
def step (now : Nat) (alarms : Alarms) (s : Signals) : Option (Alarms × Signals) :=
  match alarms.partition (·.1 ≤ now) with
  | ([], _) => none
  | (due, later) => some (later, due.foldl (fun s alarm => s.raise alarm.2) s)

/-- The instants at which alarms go off. -/
def dues (alarms : Alarms) : List Nat := alarms.map (·.1)

end Alarms

/-- A fresh scope: a root that may be cancelled, at once or later, and one
timeout inside the other below it. -/
structure ScopePlan where
  timeouts : List Nat
  cancelled : Bool
  cancelAfter : Option Nat

namespace ScopePlan

/-- A scope that neither ends by itself nor was cancelled. -/
def plain : ScopePlan := ⟨[], false, none⟩

/-- Makes the scope, and the cancellation to come. -/
def make (plan : ScopePlan) (now : Nat) (s : Signals) : Scope × Alarms × Signals :=
  let (root, s) := Scope.root s
  let (scope, s) := plan.timeouts.foldl (fun (scope, s) d => scope.withTimeout d now s) (root, s)
  let s := if plan.cancelled then s.raise root.token else s
  (scope, plan.cancelAfter.toList.map (fun d => (Instant.pauseEnd now d, root.token)), s)

end ScopePlan

end CallGuard.Scenario
