import CallGuard.Breaker.Guarded
import CallGuard.Chain
import CallGuard.Processor.Worker
import CallGuard.Retry.Run
import CallGuard.Sequence.Tracker
import CallGuard.Submission
import CallGuard.Scenario.Calls
import CallGuard.Scenario.Processing
import CallGuard.Scenario.Reporting
import CallGuard.Scenario.Retrying
import CallGuard.Scenario.Scopes
import CallGuard.Scenario.Submitting
import CallGuard.Scenario.Tracking
import CallGuard.Proofs.Processor.Accounting
import CallGuard.Proofs.Processor.Discards
import CallGuard.Proofs.Processor.Order
import CallGuard.Proofs.Processor.Release
import CallGuard.Proofs.Processor.Abort
import CallGuard.Proofs.Retry.Timing
import CallGuard.Proofs.Retry.Results
import CallGuard.Proofs.Breaker.Counts
import CallGuard.Proofs.Breaker.Trace
import CallGuard.Proofs.Breaker.Law
import CallGuard.Proofs.Breaker.Window
import CallGuard.Proofs.Sequence.History
import CallGuard.Proofs.Sequence.Steps
import CallGuard.Proofs.Sequence.Law
import CallGuard.Proofs.Sequence.Spacing
import CallGuard.Proofs.Sequence.Harmless
import CallGuard.Proofs.Scope.Forest
import CallGuard.Proofs.Scope.Inheritance
import CallGuard.Proofs.Breaker.Roster
import CallGuard.Proofs.Breaker.Story
import CallGuard.Proofs.Breaker.Enrolment
import CallGuard.Proofs.Breaker.Probes
import CallGuard.Proofs.Sequence.Prompt
import CallGuard.Proofs.Sequence.Bounds
import CallGuard.Proofs.Retry.Outage
import CallGuard.Proofs.Retry.Termination
import CallGuard.Proofs.Sequence.Contest
import CallGuard.Proofs.Processor.Stopping
import CallGuard.Proofs.Processor.Dominance
import CallGuard.Proofs.Processor.Timeouts
import CallGuard.Proofs.Scope.Racing
import CallGuard.Proofs.Scope.Deadline
import CallGuard.Proofs.Retry.Matching
import CallGuard.Proofs.Sequence.Overlap
import CallGuard.Proofs.Processor.Stages
import CallGuard.Proofs.Processor.Settings
import CallGuard.Proofs.Breaker.Deeds
import CallGuard.Proofs.Breaker.Nested
import CallGuard.Proofs.Breaker.Conduct
