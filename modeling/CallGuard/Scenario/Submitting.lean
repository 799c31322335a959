/-
Submissions over time: a tracker that starts from what the chain tells, and a
processor whose items are transactions.
-/
import CallGuard.Scenario.Processing
import CallGuard.Scenario.Tracking
import CallGuard.Submission

namespace CallGuard.Scenario

/-- A processor in a scenario whose items are submissions. -/
abbrev Submitting := Processing Desk Nat (Scope × Submission.Stage) Nat

namespace Submitting

/-- The payload of an item is how long its transaction takes to prepare. Beside
the processor, the tracker serves its callers and fetches go on. -/
def shop (resync : Bool) : Workshop Desk Nat (Scope × Submission.Stage) Nat where
  work := (Submission.submitting resync).comap (·.payload)
  errand now w := Desk.serve now w <|> Desk.fetch now w
  errandDues desk := desk.tracker.dues Chain.fetching

/-- Makes the tracker, with its first refetch, and the processor, which is
started and whose results are claimed: or the failure of that refetch. -/
def new (chain : Chain) (pacing : Sequence.Pacing) (breaker : Breaker) (config : Processor.Config) :
    Option (Except Failure Unit) × Journal × Submitting :=
  let (refetched, t) := (Tracking.new pacing Chain.fetching chain).initialRefetch .plain
  let setting : Setting Desk :=
    ⟨t.setting.signals, t.setting.journal, ⟨t.tracker, breaker, [], t.setting.site⟩⟩
  let s : Submitting := Processing.new config setting t.now
  let s := (s.start.toOption).getD s
  (refetched, t.setting.journal, s.results.2)

/-- Something happens to the chain. -/
def onChain (s : Submitting) (f : Chain → Chain) : Submitting :=
  { s with setting := { s.setting with site := s.setting.site.putChain (f s.setting.site.chain) } }

/-- The changes of the breaker's state since this was last asked, in order. -/
def takeChanges (s : Submitting) : List CircuitChange × Submitting :=
  let desk := s.setting.site
  let changes := desk.line.events.reverse.filterMap fun e =>
    match e with
    | .heard (.changed change) _ => some change
    | _ => none
  (changes, { s with
    setting := { s.setting with site := { desk with line := { desk.line with events := [] } } } })

end Submitting

end CallGuard.Scenario
