/-
The processor: a bounded queue of items in front of one worker, a bounded queue
of results behind it, and an owner who submits, starts, stops and aborts. This
module holds what the owner and the reader of the results do; what the worker
does is in `Processor.Worker`.
-/
import CallGuard.Processor.Item
import CallGuard.Processor.Reporter

namespace CallGuard

namespace Processor

/-- What the owner has done with the processor. -/
inductive Stage where
  /-- Neither started nor stopped. -/
  | fresh
  /-- Started, and not stopped since. -/
  | launched
  /-- Stopped, at least once. -/
  | released
  /-- Given up by its owner. -/
  | dropped
  deriving DecidableEq, Repr

/-- Who holds the reading end of the output queue. -/
inductive Reader where
  /-- The processor still. -/
  | unclaimed
  | claimed
  /-- Nobody any more. -/
  | gone
  deriving DecidableEq, Repr

/-- What the worker is at. -/
inductive Task (ι σ α : Type) where
  | starting
  | idle
  | working (order : Order ι) (effort : Effort σ α)
  | delivering (result : Result α)
  | stopped

/-- A worker serves until the processor closes. Then it only works off the
queue, and counts the items it takes. -/
structure Worker (ι σ α : Type) where
  task : Task ι σ α
  drained : Option Nat

/-- Whether a worker has come to its end. -/
def Worker.isStopped {ι σ α : Type} (worker : Worker ι σ α) : Bool :=
  match worker.task with
  | .stopped => true
  | _ => false

end Processor

/-- A processor: a queue of items, a worker that takes them in turn, and a queue of results. -/
structure Processor (ι σ α : Type) where
  config : Processor.Config
  /-- The scope above all work on items. -/
  lifetime : Scope
  stage : Processor.Stage
  /-- No more items are admitted. -/
  closing : Bool
  input : List (Processor.Item ι)
  output : List (Processor.Result α)
  reader : Processor.Reader
  worker : Option (Processor.Worker ι σ α)
  counters : Counters
  reporter : Option Processor.Reporter
  reporterScope : Scope
  /-- The next stop has to wait for the reporter. -/
  reporterAttended : Bool

namespace Processor

variable {S ι σ α : Type}

/-- A processor that was not started yet. -/
def new (config : Config) (signals : Signals) : Processor ι σ α × Signals :=
  let (lifetime, signals) := Scope.root signals
  let (reporterScope, signals) := Scope.root signals
  (⟨config, lifetime, .fresh, false, [], [], .unclaimed, none, .zero, none, reporterScope, false⟩,
    signals)

/-- Items waiting in the input queue. -/
def depth (p : Processor ι σ α) : Nat := p.input.length

/-- Counts an event. -/
def count (p : Processor ι σ α) (event : Counters.Event) : Processor ι σ α :=
  { p with counters := p.counters.record event }

/-- Puts an item into the input queue, if the processor is not closing and there
is room. -/
def submit (p : Processor ι σ α) (id : String) (payload : ι) (now : Nat) (w : Setting S) :
    Bool × Processor ι σ α × Setting S :=
  if p.closing then (false, p.count .rejected, w.log (.itemRefusedStopping id))
  else if p.input.length < p.config.capacity then
    let p := { p with input := p.input ++ [Item.mk id payload now] }
    (true, p.count .submitted, w)
  else (false, p.count .rejected, w.log (.itemRefusedFull id))

/-- Launches the worker, and the reporter if there is to be one. Once is enough;
after a stop it is too late. -/
def start (p : Processor ι σ α) : Except Failure (Processor ι σ α) :=
  match p.stage with
  | .launched => .ok p
  | .fresh =>
    .ok { p with
      stage := .launched
      worker := some ⟨.starting, none⟩
      reporter := p.config.metricsInterval.map (.new · p.reporterScope)
      reporterAttended := p.config.metricsInterval.isSome }
  | .released | .dropped => .error (.plain "processor already stopped; create a new one")

/-- Hands out the reading end of the output queue, the first time. -/
def results (p : Processor ι σ α) : Bool × Processor ι σ α :=
  match p.reader with
  | .unclaimed => (true, { p with reader := .claimed })
  | .claimed | .gone => (false, p)

/-- The reading end goes away, and with it the results not read yet. -/
def dropReader (p : Processor ι σ α) : Processor ι σ α := { p with reader := .gone, output := [] }

/-- Whether there is a reader still, and room for a result. -/
def hasRoom (p : Processor ι σ α) : Bool :=
  p.reader != .gone && p.output.length < p.config.capacity

/-- No result will be put into the output queue any more. -/
def isFinal (p : Processor ι σ α) : Bool := p.stage != .fresh && p.worker.all (·.isStopped)

/-- Takes the oldest result out of the output queue. -/
def read (p : Processor ι σ α) : Option (Result α × Processor ι σ α) :=
  match p.output with
  | [] => none
  | r :: output => some (r, { p with output := output })

/-- Takes all results out of the output queue. -/
def readAll (p : Processor ι σ α) : List (Result α) × Processor ι σ α :=
  (p.output, { p with output := [] })

/-- Ends all work on items, and admits no more. -/
def abort (p : Processor ι σ α) (w : Setting S) : Processor ι σ α × Setting S :=
  let w := w.log .aborted
  ({ p with closing := true }, { w with signals := w.signals.raise p.lifetime.token })

/-- The owner goes away. What nobody else holds goes with it: the items, if
there is no worker, and the results, if there is no reader. -/
def drop (p : Processor ι σ α) (w : Setting S) : Processor ι σ α × Setting S :=
  let p := if p.reader = .unclaimed then p.dropReader else p
  ({ p with
      stage := .dropped
      closing := true
      input := if p.stage = .fresh then [] else p.input },
    { w with signals := w.signals.raise p.reporterScope.token })

/-- Answers an item that no worker will take. -/
def answerUnstarted (p : Processor ι σ α) (item : Item ι) : Processor ι σ α :=
  let p := p.count .failure
  if p.hasRoom then { p with output := p.output ++ [Result.mk item.id (.error .notStarted) 0] }
  else p.count .discarded

/-- Answers all waiting items of a processor that was never started. -/
def answerAllUnstarted (p : Processor ι σ α) (w : Setting S) : Processor ι σ α × Setting S :=
  ({ p.input.foldl answerUnstarted p with input := [] },
    if p.input.isEmpty then w else w.log (.unstartedAnswered p.input.length))

/-- What a stop waits for. -/
inductive Stopping where
  | worker
  | reporter
  | nothing
  deriving DecidableEq, Repr

/-- The end of a stop: the reporter is told to end, and waited for. -/
def releaseReporter (p : Processor ι σ α) (w : Setting S) :
    Stopping × Processor ι σ α × Setting S :=
  let w := { w with signals := w.signals.raise p.reporterScope.token }
  let awaited := p.reporterAttended && !p.reporter.all (·.isFinished)
  (if awaited then .reporter else .nothing, { p with reporterAttended := false }, w)

/-- Begins a stop. The first stop of a started processor waits for the worker;
the first stop of a processor that was never started answers the items. -/
def beginStop (p : Processor ι σ α) (w : Setting S) : Stopping × Processor ι σ α × Setting S :=
  let p := { p with closing := true }
  match p.stage with
  | .launched => (.worker, { p with stage := .released }, w)
  | .fresh =>
    let (p, w) := p.answerAllUnstarted w
    { p with stage := .released }.releaseReporter w
  | .released | .dropped => p.releaseReporter w

/-- A stop goes on, if what it waits for has come. -/
def continueStop (p : Processor ι σ α) (w : Setting S) :
    Stopping → Option (Stopping × Processor ι σ α × Setting S)
  | .worker => if p.worker.all (·.isStopped) then some (p.releaseReporter w) else none
  | .reporter => if p.reporter.all (·.isFinished) then some (.nothing, p, w) else none
  | .nothing => none

end Processor

end CallGuard
