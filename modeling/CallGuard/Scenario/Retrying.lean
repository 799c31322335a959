/-
One retried operation over time: its tries follow a script, and its scope may
be cancelled from outside.
-/
import CallGuard.Behaviour
import CallGuard.Retry.Run
import CallGuard.Scenario.Plan
import CallGuard.Timeline

namespace CallGuard.Scenario

/-- A run of retries in a scenario. -/
structure Retrying where
  setting : Setting Unit
  run : Retry.Run (Scope × Activity Nat) Nat
  alarms : Alarms

namespace Retrying

/-- Try `n` follows entry `n` of the script. -/
def tries : Operation Unit (Script Nat) (Scope × Activity Nat) Nat :=
  .scripted (fun script n => script.entry n) (fun _ _ s => s) (fun _ s => s)

/-- The steps of a run, with alarms beside it. -/
def machine (job : Retry.Job (Script Nat)) : Machine Retrying where
  step now s :=
    ((s.run.step tries job now s.setting).map fun (run, w) => { s with run := run, setting := w }) <|>
    ((s.alarms.step now s.setting.signals).map fun (alarms, signals) =>
      { s with alarms := alarms, setting := { s.setting with signals := signals } })
  dues s := s.run.dues tries job ++ s.alarms.dues

/-- How the run ends and when, unless it never does. -/
def play (policy : Retry.Policy) (patterns : List String) (plan : ScopePlan) (script : Script Nat) :
    Nat × Retrying :=
  let (scope, alarms, signals) := plan.make 0 .empty
  let job : Retry.Job (Script Nat) := ⟨script, scope, policy, patterns, 0⟩
  (machine job).run (·.run.outcome?.isSome) Instant.limit 0 ⟨⟨signals, [], ()⟩, .initial policy, alarms⟩

end Retrying

end CallGuard.Scenario
