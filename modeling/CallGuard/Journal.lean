/-
The journal: everything the library reports while it works, one entry an
event, each with a level, a message and named values.
-/
import CallGuard.Breaker.Basic
import CallGuard.Processor.Counters

namespace CallGuard

/-- How much an entry matters. -/
inductive Level where
  | trace
  | debug
  | info
  | warn
  | error
  deriving DecidableEq, Repr

/-- A value in an entry. -/
inductive Datum where
  | number (n : Nat)
  | text (s : String)
  deriving DecidableEq, Repr

/-- What is written into the journal, with the values that stand in it. -/
inductive Entry where
  -- retrying
  | notRetried (attempt : Nat) (error : String)
  | budgetExhausted (attempt elapsed : Nat) (error : String)
  | retrying (attempt pause : Nat) (error : String)
  -- breaker
  | circuitChanged (change : CircuitChange)
  | callAdmitted (state : CircuitState)
  | callRejected
  -- sequence tracker
  | sequenceHandedOut (sequence : Nat)
  | refetchThrottled (elapsed interval : Nat)
  | refetchIncomplete (reason : String)
  | sequenceRefetched (sequence account : Nat)
  | sequenceUpdated (previous sequence : Nat)
  -- processor
  | workerStarted (capacity : Nat)
  | workerStopped (drained : Nat)
  | itemStarted (id : String) (waited : Nat)
  | itemPanicked (message : String)
  | itemProcessed (id : String) (elapsed : Nat)
  | itemFailed (id : String) (elapsed : Nat) (error : String)
  | resultDiscarded (id : String)
  | itemRefusedStopping (id : String)
  | itemRefusedFull (id : String)
  | aborted
  | unstartedAnswered (answered : Nat)
  -- reporter
  | metrics (throughput : String) (depth : Nat) (counters : Counters)
  | reporterStopped
  deriving DecidableEq, Repr

namespace Entry

/-- How much each entry matters. -/
def level : Entry → Level
  | sequenceHandedOut _ | itemStarted _ _ | callAdmitted _ => .trace
  | notRetried _ _ | callRejected | sequenceRefetched _ _ | sequenceUpdated _ _ | itemProcessed _ _
  | itemFailed _ _ _ | resultDiscarded _ | itemRefusedStopping _ | itemRefusedFull _
  | reporterStopped => .debug
  | workerStarted _ | workerStopped _ | metrics _ _ _ => .info
  | circuitChanged change => if change.next = .closed then .info else .warn
  | budgetExhausted _ _ _ | retrying _ _ _ | refetchThrottled _ _ | refetchIncomplete _ | aborted
  | unstartedAnswered _ => .warn
  | itemPanicked _ => .error

/-- The text of an entry, without its values. -/
def message : Entry → String
  | notRetried _ _ => "non-retriable error; giving up"
  | budgetExhausted _ _ _ => "retry budget exhausted"
  | retrying _ _ _ => "operation failed; retrying"
  | circuitChanged _ => "circuit breaker state changed"
  | callAdmitted _ => "circuit breaker admitted call"
  | callRejected => "circuit breaker open; rejecting call"
  | sequenceHandedOut _ => "handing out sequence"
  | refetchThrottled _ _ => "sequence refetch throttled"
  | refetchIncomplete _ => "sequence refetch did not complete"
  | sequenceRefetched _ _ => "sequence refetched"
  | sequenceUpdated _ _ => "sequence updated out-of-band"
  | workerStarted _ => "async processor worker started"
  | workerStopped _ => "async processor worker stopped"
  | itemStarted _ _ => "processing item"
  | itemPanicked _ => "request processor panicked"
  | itemProcessed _ _ => "item processed"
  | itemFailed _ _ _ => "item failed"
  | resultDiscarded _ => "output queue unavailable during shutdown; result discarded"
  | itemRefusedStopping _ => "processor shutting down; item rejected"
  | itemRefusedFull _ => "input queue full; item rejected"
  | aborted => "async processor aborted"
  | unstartedAnswered _ => "processor stopped before start; queued items rejected"
  | metrics _ _ _ => "processor metrics snapshot"
  | reporterStopped => "metrics reporter shutting down"

/-- The named values of an entry. Spans are shown in whole milliseconds. -/
def fields : Entry → List (String × Datum)
  | notRetried attempt error => [("attempt", .number attempt), ("error", .text error)]
  | budgetExhausted attempt elapsed error =>
    [("attempt", .number attempt), ("elapsed_ms", .number (Span.millis elapsed)), ("error", .text error)]
  | retrying attempt pause error =>
    [("attempt", .number attempt), ("backoff_ms", .number (Span.millis pause)), ("error", .text error)]
  | circuitChanged change =>
    [("previous", .text change.previous.label), ("next", .text change.next.label)]
  | callAdmitted state => [("breaker_state", .text state.label)]
  | sequenceHandedOut sequence => [("sequence", .number sequence)]
  | refetchThrottled elapsed interval =>
    [("elapsed_ms", .number (Span.millis elapsed)), ("interval_ms", .number (Span.millis interval))]
  | refetchIncomplete reason => [("error", .text reason)]
  | sequenceRefetched sequence account =>
    [("sequence", .number sequence), ("account_number", .number account)]
  | sequenceUpdated previous sequence =>
    [("previous", .number previous), ("sequence", .number sequence)]
  | workerStarted capacity => [("queue_capacity", .number capacity)]
  | workerStopped drained => [("drained", .number drained)]
  | itemStarted id waited => [("id", .text id), ("queue_wait_ms", .number (Span.millis waited))]
  | itemPanicked message => [("panic", .text message)]
  | itemProcessed id elapsed => [("id", .text id), ("elapsed_ms", .number (Span.millis elapsed))]
  | itemFailed id elapsed error =>
    [("id", .text id), ("elapsed_ms", .number (Span.millis elapsed)), ("error", .text error)]
  | resultDiscarded id | itemRefusedStopping id | itemRefusedFull id => [("id", .text id)]
  | unstartedAnswered answered => [("answered", .number answered)]
  | metrics throughput depth counters =>
    [("throughput", .text throughput), ("queue_depth", .number depth),
      ("submitted", .number counters.submitted), ("rejected", .number counters.rejected),
      ("succeeded", .number counters.succeeded), ("failed", .number counters.failed),
      ("timed_out", .number counters.timedOut), ("discarded", .number counters.discarded)]
  | callRejected | aborted | reporterStopped => []

end Entry

/-- The entries so far, the latest first. -/
abbrev Journal := List Entry

end CallGuard
