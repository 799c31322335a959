/-
A reporter over time, by itself: counts and the depth of a queue change, its
scope may be cancelled, and time passes.
-/
import CallGuard.Processor.Reporter
import CallGuard.Scenario.Plan
import CallGuard.Timeline

namespace CallGuard.Scenario

open Processor (Reporter)

/-- A reporter in a scenario, with the counters that it reports. -/
structure Reporting where
  now : Nat
  setting : Setting Unit
  reporter : Reporter
  alarms : Alarms
  counters : Counters
  depth : Nat

namespace Reporting

/-- A reporter in a planned scope. -/
def new (interval : Nat) (plan : ScopePlan) : Reporting :=
  let (scope, alarms, signals) := plan.make 0 .empty
  ⟨0, ⟨signals, [], ()⟩, .new interval scope, alarms, .zero, 0⟩

/-- The steps of a reporter, with alarms beside it. -/
def machine : Machine Reporting where
  step now s :=
    ((s.alarms.step now s.setting.signals).map fun (alarms, signals) =>
      { s with alarms := alarms, setting := { s.setting with signals := signals } }) <|>
    ((s.reporter.step now s.counters s.depth s.setting).map fun (reporter, w) =>
      { s with reporter := reporter, setting := w })
  dues s := s.reporter.dues ++ s.alarms.dues

/-- Makes all steps that can be made now. -/
def settle (s : Reporting) : Reporting := machine.settle s.now s

/-- Lets time pass. -/
def advance (s : Reporting) (d : Nat) : Reporting :=
  let (now, s) := machine.advance d s.now s
  { s with now := now }

/-- Counts an event a number of times. -/
def count (s : Reporting) (event : Counters.Event) (times : Nat) : Reporting :=
  { s with counters := times.repeat (·.record event) s.counters }

/-- Cancels the reporter's scope. -/
def cancel (s : Reporting) : Reporting :=
  { s with setting := { s.setting with signals := s.setting.signals.raise s.reporter.scope.token } }

/-- What was reported since this was last asked, in order. -/
def takeJournal (s : Reporting) : List Entry × Reporting :=
  (s.setting.journal.reverse, { s with setting := { s.setting with journal := [] } })

end Reporting

end CallGuard.Scenario
