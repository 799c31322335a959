/-
A processor among those who use it, as a system of single steps: its owner
submits, starts, stops and aborts, the consumer reads or lets go of the output
queue, the worker and the reporter make their steps, time passes, and things
change around it. A run is any list of these events, in any order. Stops are
made of the steps in which they wait, so that one can be given up midway.

Beside the processor stand its books: what was seen of every item as it moved.
They are written by watching the processor from outside and never read by it.
-/
import CallGuard.Processor.Worker
import Mathlib.Data.List.Induction

namespace CallGuard.Processor

variable {S ι σ α : Type}

/-- The item that a task works on; its outcome is not recorded yet. -/
def Task.inWork : Task ι σ α → List (Item ι)
  | .working order _ => [order.item]
  | _ => []

/-- The result that a task has recorded and not delivered yet. -/
def Task.inHand : Task ι σ α → List (Result α)
  | .delivering result => [result]
  | _ => []

/-- What the worker is at, if there is one. -/
def task? (p : Processor ι σ α) : Option (Task ι σ α) := p.worker.map (·.task)

/-- The item that the worker works on, if it does. -/
def inWork (p : Processor ι σ α) : List (Item ι) := p.task?.elim [] (·.inWork)

/-- The result that the worker has in hand, if it has one. -/
def inHand (p : Processor ι σ α) : List (Result α) := p.task?.elim [] (·.inHand)

/-- Whether an outcome is a timeout: it ran into the item's deadline. -/
def isTimeout : Except Failure α → Bool
  | .ok _ => false
  | .error f => f.is (.scope .deadlineExceeded)

/-- What was seen of the items, the oldest first. -/
structure Books (ι α : Type) where
  admitted : List (Item ι)
  refused : Nat
  /-- Items whose outcome was recorded, each with its result. -/
  recorded : List (Item ι × Result α)
  /-- Results of which it was decided whether they are delivered. -/
  decided : List (Result α × Bool)
  received : List (Result α)
  /-- Results that went away with the reading end of the output queue. -/
  destroyed : List (Result α)

namespace Books

/-- Nothing was seen yet. -/
def empty : Books ι α := ⟨[], 0, [], [], [], []⟩

/-- Results that were put into the output queue. -/
def delivered (b : Books ι α) : List (Result α) := (b.decided.filter (·.2)).map (·.1)

/-- Results that were discarded. -/
def discarded (b : Books ι α) : List (Result α) := (b.decided.filter (!·.2)).map (·.1)

/-- What the counters should say. -/
def counters (b : Books ι α) : Counters where
  submitted := Word.wrap b.admitted.length
  rejected := Word.wrap b.refused
  succeeded := Word.wrap (b.recorded.countP (·.2.outcome.isOk))
  failed := Word.wrap (b.recorded.countP (!·.2.outcome.isOk))
  timedOut := Word.wrap (b.recorded.countP (isTimeout ·.2.outcome))
  discarded := Word.wrap b.discarded.length

/-- The outcome of an item is recorded. -/
def record (b : Books ι α) (item : Item ι) (result : Result α) : Books ι α :=
  { b with recorded := b.recorded ++ [(item, result)] }

/-- A result was dealt with in a change from `p` to `p'`: it was delivered if the
output queue grew. -/
def settle (b : Books ι α) (result : Result α) (p p' : Processor ι σ α) : Books ι α :=
  { b with decided := b.decided ++ [(result, decide (p.output.length < p'.output.length))] }

/-- Watches a step of the worker from `p` to `p'`. -/
def watch (b : Books ι α) (p p' : Processor ι σ α) : Books ι α :=
  match p.task?, p'.task? with
  | some (.working order _), some (.delivering result) => b.record order.item result
  | some (.delivering result), some .idle => b.settle result p p'
  | _, _ => b

/-- Watches an item being answered without a worker. -/
def watchAnswer (b : Books ι α) (p : Processor ι σ α) (item : Item ι) : Books ι α :=
  let result : Result α := ⟨item.id, .error .notStarted, 0⟩
  (b.record item result).settle result p (p.answerUnstarted item)

/-- Watches several items being answered, one after the other. -/
def watchAnswers : Books ι α → Processor ι σ α → List (Item ι) → Books ι α
  | b, _, [] => b
  | b, p, item :: items => (b.watchAnswer p item).watchAnswers (p.answerUnstarted item) items

/-- Watches the beginning of a stop. If no worker was ever launched, it answers
all items that wait. -/
def watchStop (b : Books ι α) (p : Processor ι σ α) : Books ι α :=
  if p.stage = .fresh then b.watchAnswers { p with closing := true } p.input else b

end Books

/-- What happens to a processor. -/
inductive Event (S ι : Type) where
  | submit (id : String) (payload : ι)
  | start
  /-- A stop is called. One that is still under way is given up for it. -/
  | stop
  /-- The stop under way looks whether what it waits for has come. -/
  | awaitStop
  /-- The caller of a stop goes away before it has returned. -/
  | giveUpStop
  | abort
  | results
  | read
  | dropReader
  /-- The worker makes a step, if it can. -/
  | work
  /-- The reporter makes a step, if it can. -/
  | report
  | pass (d : Nat)
  /-- Everything around the processor may change: tokens, the journal, the site
  of the work. -/
  | around (setting : Setting S)

namespace Event

variable {S ι : Type}

/-- After these no item is admitted any more. -/
def closes : Event S ι → Bool
  | .stop | .abort => true
  | _ => false

/-- Submits, whether they are admitted or not. -/
def isSubmit : Event S ι → Bool
  | .submit _ _ => true
  | _ => false

/-- These concern neither the items and results nor the worker. -/
def isAside : Event S ι → Bool
  | .awaitStop | .giveUpStop | .report | .pass _ | .around _ => true
  | _ => false

theorem closes_of_isAside {e : Event S ι} (h : e.isAside = true) : e.closes = false := by
  cases e <;> first | rfl | cases h

end Event

/-- A processor with all around it, and what was seen of its items. -/
structure World (S ι σ α : Type) where
  now : Nat
  setting : Setting S
  processor : Processor ι σ α
  /-- What the stop under way waits for, if there is one. -/
  stopping : Option Stopping
  /-- A stop was given up before it had returned. -/
  forsaken : Bool
  /-- A stop has returned, and none had been given up before. -/
  stopped : Bool
  books : Books ι α

namespace World

/-- A new processor, of which nothing was asked yet. -/
def initial (config : Config) (setting : Setting S) : World S ι σ α :=
  let (p, signals) := Processor.new config setting.signals
  ⟨0, { setting with signals := signals }, p, none, false, false, .empty⟩

/-- A stop under way goes on with what it waits for next, or returns. -/
def proceedStop (w : World S ι σ α) (next : Stopping × Processor ι σ α × Setting S) : World S ι σ α :=
  let w := { w with processor := next.2.1, setting := next.2.2 }
  match next.1 with
  | .nothing => { w with stopping := none, stopped := w.stopped || !w.forsaken }
  | s => { w with stopping := some s }

/-- The stop under way, if there is one, is given up. -/
def giveUpStop (w : World S ι σ α) : World S ι σ α :=
  { w with stopping := none, forsaken := w.forsaken || w.stopping.isSome }

/-- A stop is called, and goes as far as it can at once. -/
def stop (w : World S ι σ α) : World S ι σ α :=
  { w.giveUpStop with books := w.books.watchStop w.processor }.proceedStop
    (w.processor.beginStop w.setting)

/-- The stop under way goes on, if what it waits for has come. -/
def awaitStop (w : World S ι σ α) : World S ι σ α :=
  match w.stopping.bind (w.processor.continueStop w.setting) with
  | some next => w.proceedStop next
  | none => w

/-- An item is submitted, and its submit is answered. -/
def submit (w : World S ι σ α) (id : String) (payload : ι) : World S ι σ α :=
  let (admitted, p, setting) := w.processor.submit id payload w.now w.setting
  { w with
    processor := p
    setting := setting
    books :=
      if admitted then { w.books with admitted := w.books.admitted ++ [⟨id, payload, w.now⟩] }
      else { w.books with refused := w.books.refused + 1 } }

/-- The consumer reads one result, if it has the reading end and there is one. -/
def read (w : World S ι σ α) : World S ι σ α :=
  if w.processor.reader = .claimed then
    match w.processor.read with
    | some (r, p) =>
      { w with processor := p, books := { w.books with received := w.books.received ++ [r] } }
    | none => w
  else w

/-- The consumer lets go of the reading end, if it has it. -/
def dropReader (w : World S ι σ α) : World S ι σ α :=
  if w.processor.reader = .claimed then
    { w with
      processor := w.processor.dropReader
      books := { w.books with destroyed := w.books.destroyed ++ w.processor.output } }
  else w

/-- The worker makes a step, if it can. -/
def work (op : Operation S (Item ι) σ α) (w : World S ι σ α) : World S ι σ α :=
  match w.processor.workerStep op w.now w.setting with
  | some (p, setting) =>
    { w with processor := p, setting := setting, books := w.books.watch w.processor p }
  | none => w

/-- What comes of an event. Nothing comes of one that is impossible. -/
def apply (op : Operation S (Item ι) σ α) (w : World S ι σ α) : Event S ι → World S ι σ α
  | .submit id payload => w.submit id payload
  | .start =>
    match w.processor.start with
    | .ok p => { w with processor := p }
    | .error _ => w
  | .stop => w.stop
  | .awaitStop => w.awaitStop
  | .giveUpStop => w.giveUpStop
  | .abort =>
    let (p, setting) := w.processor.abort w.setting
    { w with processor := p, setting := setting }
  | .results => { w with processor := w.processor.results.2 }
  | .read => w.read
  | .dropReader => w.dropReader
  | .work => w.work op
  | .report =>
    match w.processor.reporterStep w.now w.setting with
    | some (p, setting) => { w with processor := p, setting := setting }
    | none => w
  | .pass d => { w with now := w.now + d }
  | .around setting => { w with setting := setting }

/-- What comes of a run: events one after the other, from a new processor on. -/
def play (op : Operation S (Item ι) σ α) (config : Config) (setting : Setting S)
    (events : List (Event S ι)) : World S ι σ α :=
  events.foldl (apply op) (initial config setting)

theorem play_concat (op : Operation S (Item ι) σ α) (config : Config) (setting : Setting S)
    (events : List (Event S ι)) (e : Event S ι) :
    play op config setting (events ++ [e]) = (play op config setting events).apply op e := by
  simp only [play, List.foldl_append, List.foldl_cons, List.foldl_nil]

/-- What holds of a new processor and is kept by every event holds after every
run. -/
theorem play_induction {op : Operation S (Item ι) σ α} {config : Config} {setting : Setting S}
    {P : World S ι σ α → Prop} (base : P (initial config setting))
    (step : ∀ w e, P w → P (w.apply op e)) (events : List (Event S ι)) :
    P (play op config setting events) := by
  induction events using List.reverseRecOn with
  | nil => exact base
  | append_singleton events e ih =>
    rw [play_concat]
    exact step _ e ih

end World

end CallGuard.Processor
