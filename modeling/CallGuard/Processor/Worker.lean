/-
The worker of a processor, in steps: it takes the oldest item, works on it
within the item's own scope, counts the outcome, and delivers the result. While
the processor is open it waits for items and for room; once the processor
closes it works off the queue, discards what finds no room, and stops.
-/
import CallGuard.Processor.Basic

namespace CallGuard.Processor

variable {S ι σ α : Type}

/-- Sets the worker to a task. -/
def assign (p : Processor ι σ α) (task : Task ι σ α) (drained : Option Nat) : Processor ι σ α :=
  { p with worker := some ⟨task, drained⟩ }

/-- Begins the work on an item. -/
def orderOf (p : Processor ι σ α) (item : Item ι) (now : Nat) (w : Setting S) :
    Order ι × Setting S :=
  let w := w.log (.itemStarted item.id (now - item.createdAt))
  let (scope, signals) := p.lifetime.withTimeout p.config.itemTimeout now w.signals
  (⟨item, scope, now⟩, { w with signals := signals })

/-- Takes the oldest item out of the input queue and begins the work on it. -/
def take (p : Processor ι σ α) (drained : Option Nat) (now : Nat) (w : Setting S) :
    Option (Processor ι σ α × Setting S) :=
  match p.input with
  | [] => none
  | item :: input =>
    let (order, w) := p.orderOf item now w
    some ({ p with input := input }.assign (.working order (.initial p.config.policy)) drained, w)

/-- An idle worker takes an item. A closing processor's worker takes no more
than are there. -/
def wake (p : Processor ι σ α) (drained : Option Nat) (now : Nat) (w : Setting S) :
    Option (Processor ι σ α × Setting S) :=
  match drained with
  | none => if p.closing then some (p.assign .idle (some 0), w) else p.take none now w
  | some n =>
    p.take (some (n + 1)) now w <|> some (p.assign .stopped (some n), w.log (.workerStopped n))

/-- What an outcome counts as: running into the item's deadline is a timeout. -/
def eventOf : Except Failure α → Counters.Event
  | .ok _ => .success
  | .error f => if f.is (.scope .deadlineExceeded) then .timeout else .failure

/-- What is written of an item that came to an outcome. -/
def outcomeEntry (id : String) (elapsed : Nat) : Except Failure α → Entry
  | .ok _ => .itemProcessed id elapsed
  | .error f => .itemFailed id elapsed f.text

/-- Counts the outcome of an item; its result is now to be delivered. -/
def conclude (p : Processor ι σ α) (drained : Option Nat) (order : Order ι) (outcome : Outcome α)
    (now : Nat) (w : Setting S) : Processor ι σ α × Setting S :=
  let result : Result α := ⟨order.item.id, resultOf outcome, now - order.started⟩
  ((p.count (eventOf result.outcome)).assign (.delivering result) drained,
    w.log (outcomeEntry result.id result.elapsed result.outcome))

/-- One step of the work on an item, or its conclusion. -/
def work (op : Operation S (Item ι) σ α) (p : Processor ι σ α) (drained : Option Nat)
    (order : Order ι) (effort : Effort σ α) (now : Nat) (w : Setting S) :
    Option (Processor ι σ α × Setting S) :=
  match effort.outcome? with
  | some outcome => some (p.conclude drained order outcome now w)
  | none =>
    (effort.step op p.config order now w).map fun (effort, w) =>
      (p.assign (.working order effort) drained, w)

/-- Delivers a result if there is room. A result that can never be delivered, or
not before the processor closes, is discarded. -/
def deliver (p : Processor ι σ α) (drained : Option Nat) (result : Result α) (w : Setting S) :
    Option (Processor ι σ α × Setting S) :=
  if p.hasRoom then some ({ p with output := p.output ++ [result] }.assign .idle drained, w)
  else if p.reader = .gone ∨ p.closing then
    some ((p.count .discarded).assign .idle drained, w.log (.resultDiscarded result.id))
  else none

/-- One step of the worker, if there is one to make now. -/
def workerStep (op : Operation S (Item ι) σ α) (now : Nat) (p : Processor ι σ α) (w : Setting S) :
    Option (Processor ι σ α × Setting S) :=
  p.worker.bind fun worker =>
    match worker.task with
    | .starting => some (p.assign .idle worker.drained, w.log (.workerStarted p.config.capacity))
    | .idle => p.wake worker.drained now w
    | .working order effort => p.work op worker.drained order effort now w
    | .delivering result => p.deliver worker.drained result w
    | .stopped => none

/-- One step of the reporter, if there is one to make now. -/
def reporterStep (now : Nat) (p : Processor ι σ α) (w : Setting S) :
    Option (Processor ι σ α × Setting S) :=
  p.reporter.bind fun reporter =>
    (reporter.step now p.counters p.depth w).map fun (reporter, w) =>
      ({ p with reporter := some reporter }, w)

/-- The instants for which the worker and the reporter wait. -/
def dues (op : Operation S (Item ι) σ α) (p : Processor ι σ α) : List Nat :=
  (p.worker.toList.flatMap fun worker =>
    match worker.task with
    | .working order effort => effort.dues op p.config order
    | .starting | .idle | .delivering _ | .stopped => []) ++
  p.reporter.toList.flatMap (·.dues)

end CallGuard.Processor
