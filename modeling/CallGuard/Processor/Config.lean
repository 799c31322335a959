/-
Settings of a processor: checked once, when they are put together. Patterns
are kept without the white space around them, and blank ones not at all.
-/
import CallGuard.Failure
import CallGuard.Retry.Policy
import CallGuard.Text.Blank

namespace CallGuard.Processor

/-- The settings of a processor. None that counts is zero. -/
structure Config where
  /-- How many items the input queue holds, and how many results the output
  queue. -/
  capacity : Nat
  /-- The longest time an item may take, retries included. -/
  itemTimeout : Nat
  policy : Option Retry.Policy
  /-- Failures that match one of these are not retried. -/
  patterns : List String
  /-- How often the counters are reported, if they are. -/
  metricsInterval : Option Nat
  capacity_pos : 0 < capacity
  itemTimeout_pos : 0 < itemTimeout
  budget_pos : ∀ p ∈ policy, 0 < p.budget
  metricsInterval_pos : ∀ d ∈ metricsInterval, 0 < d
  deriving Repr

namespace Config

/-- The timeout of items where none is set. -/
def defaultItemTimeout : Nat := Span.ofSeconds 10

/-- How often the counters are reported where it is left to the processor. -/
def defaultMetricsInterval : Nat := Span.ofSeconds 5

/-- Patterns as they are kept: trimmed, and without blank ones. -/
def cleanPatterns (patterns : List String) : List String :=
  (patterns.map Text.trim).filter (!·.isEmpty)

/-- Refuses whatever is zero; what comes first is told. -/
def new (capacity itemTimeout : Nat) (policy : Option Retry.Policy) (patterns : List String)
    (metricsInterval : Option Nat) : Except Failure Config :=
  if hc : capacity = 0 then .error (.plain "queue_capacity must be greater than 0")
  else if ht : itemTimeout = 0 then .error (.plain "item_timeout must be greater than 0")
  else if hp : ∃ p ∈ policy, p.budget = 0 then
    .error (.plain "retry_policy max_duration must be greater than 0")
  else if hm : ∃ d ∈ metricsInterval, d = 0 then
    .error (.plain "metrics_interval must be greater than 0")
  else
    .ok
      { capacity, itemTimeout, policy, metricsInterval
        patterns := cleanPatterns patterns
        capacity_pos := Nat.pos_of_ne_zero hc
        itemTimeout_pos := Nat.pos_of_ne_zero ht
        budget_pos := fun p h => Nat.pos_of_ne_zero fun h0 => hp ⟨p, h, h0⟩
        metricsInterval_pos := fun d h => Nat.pos_of_ne_zero fun h0 => hm ⟨d, h, h0⟩ }

/-- The settings given so far: the latest of each kind, and every pattern. -/
structure Draft where
  capacity : Option Nat
  itemTimeout : Option Nat
  policy : Option Retry.Policy
  patterns : List String
  metricsInterval : Option Nat

namespace Draft

/-- Nothing is set. -/
def empty : Draft := ⟨none, none, none, [], none⟩

/-- One setting. -/
inductive Choice where
  | capacity (n : Nat)
  | itemTimeout (d : Nat)
  | policy (p : Retry.Policy)
  | pattern (text : String)
  | metricsInterval (d : Nat)
  | defaultMetrics

/-- Makes a choice. The latest of its kind counts; patterns add up. -/
def set (draft : Draft) : Choice → Draft
  | .capacity n => { draft with capacity := some n }
  | .itemTimeout d => { draft with itemTimeout := some d }
  | .policy p => { draft with policy := some p }
  | .pattern text => { draft with patterns := draft.patterns ++ [text] }
  | .metricsInterval d => { draft with metricsInterval := some d }
  | .defaultMetrics => { draft with metricsInterval := some defaultMetricsInterval }

/-- A capacity is required; a missing timeout has its default. -/
def build (draft : Draft) : Except Failure Config :=
  match draft.capacity with
  | none => .error (.plain "queue_capacity is required")
  | some capacity =>
    Config.new capacity (draft.itemTimeout.getD defaultItemTimeout) draft.policy draft.patterns
      draft.metricsInterval

end Draft

end Config

end CallGuard.Processor
