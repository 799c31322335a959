/-
A processor over time, with whatever else its work keeps going, and one caller
in front. A call that waits is looked at once when it is made, and then whenever
the worker, the reporter and all else have come to rest.
-/
import CallGuard.Processor.Worker
import CallGuard.Timeline

namespace CallGuard.Scenario

open Processor (Item Result Stopping)

/-- The work that a processor does, and the errands that go on beside it. -/
structure Workshop (S ι σ α : Type) where
  work : Operation S (Item ι) σ α
  errand : Nat → Setting S → Option (Setting S)
  errandDues : S → List Nat

/-- A stop under way, and what is read while it is waited for. -/
structure Shutdown (α : Type) where
  stopping : Stopping
  /-- The results read so far, if they are read. -/
  taken : Option (List (Result α))

/-- A processor in a scenario. -/
structure Processing (S ι σ α : Type) where
  now : Nat
  setting : Setting S
  processor : Processor ι σ α
  shutdown : Option (Shutdown α)

namespace Processing

variable {S ι σ α : Type}

/-- A processor of which nothing was asked yet. -/
def new (config : Processor.Config) (setting : Setting S) (now : Nat) : Processing S ι σ α :=
  let (p, signals) := Processor.new config setting.signals
  ⟨now, { setting with signals := signals }, p, none⟩

/-- The processor makes a step. -/
def put (s : Processing S ι σ α) (p : Processor ι σ α × Setting S) : Processing S ι σ α :=
  { s with processor := p.1, setting := p.2 }

/-- Reads all there is to read, if a shutdown reads. -/
def collect (s : Processing S ι σ α) (stop : Shutdown α) : Processing S ι σ α :=
  match stop.taken with
  | none => { s with shutdown := some stop }
  | some taken =>
    let (results, p) := s.processor.readAll
    { s with processor := p, shutdown := some { stop with taken := some (taken ++ results) } }

/-- One turn of the caller who waits for a stop, if there is anything to do. -/
def turn (s : Processing S ι σ α) : Option (Processing S ι σ α) :=
  s.shutdown.bind fun stop =>
    match s.processor.continueStop s.setting stop.stopping with
    | some (stopping, p, w) =>
      some ({ s with processor := p, setting := w }.collect { stop with stopping := stopping })
    | none =>
      if stop.taken.isSome && !s.processor.output.isEmpty then some (s.collect stop) else none

/-- The steps of a processor, its reporter, the errands around it, and its shutdown. -/
def machine (shop : Workshop S ι σ α) : Machine (Processing S ι σ α) where
  step now s :=
    ((s.processor.workerStep shop.work now s.setting).map s.put) <|>
    ((s.processor.reporterStep now s.setting).map s.put) <|>
    ((shop.errand now s.setting).map fun w => { s with setting := w }) <|>
    s.turn
  dues s := s.processor.dues shop.work ++ shop.errandDues s.setting.site

/-- Lets time pass. -/
def advance (shop : Workshop S ι σ α) (s : Processing S ι σ α) (d : Nat) : Processing S ι σ α :=
  let (now, s) := (machine shop).advance d s.now s
  { s with now := now }

/-- Waits until `goal` holds, at most `limit` if there is a limit: whether it
holds then. -/
def await (shop : Workshop S ι σ α) (s : Processing S ι σ α) (goal : Processing S ι σ α → Bool)
    (limit : Option Nat) : Bool × Processing S ι σ α :=
  if goal s then (true, s)
  else
    match limit with
    | some 0 => (false, s)
    | _ =>
      let last := (limit.map (s.now + ·)).getD Instant.limit
      let (now, s) := (machine shop).run goal last s.now s
      (goal s, { s with now := now })

/-- Submits an item. -/
def submit (s : Processing S ι σ α) (id : String) (payload : ι) : Bool × Processing S ι σ α :=
  let (admitted, p) := s.processor.submit id payload s.now s.setting
  (admitted, s.put p)

/-- Starts the processor. -/
def start (s : Processing S ι σ α) : Except Failure (Processing S ι σ α) :=
  s.processor.start.map fun p => { s with processor := p }

/-- Asks for the reading end of the output queue. -/
def results (s : Processing S ι σ α) : Bool × Processing S ι σ α :=
  let (handed, p) := s.processor.results
  (handed, { s with processor := p })

/-- Aborts the processor. -/
def abort (s : Processing S ι σ α) : Processing S ι σ α := s.put (s.processor.abort s.setting)

/-- Lets go of the processor. -/
def drop (s : Processing S ι σ α) : Processing S ι σ α := s.put (s.processor.drop s.setting)

/-- Whether the caller holds the reading end of the output queue. -/
def isReading (s : Processing S ι σ α) : Bool := s.processor.reader == .claimed

/-- Lets go of the reading end, if it is held. -/
def dropResults (s : Processing S ι σ α) : Processing S ι σ α :=
  if s.isReading then { s with processor := s.processor.dropReader } else s

/-- All results there are, and whether there will be no more. -/
def drain (s : Processing S ι σ α) : List (Result α) × Bool × Processing S ι σ α :=
  let (results, p) := s.processor.readAll
  (results, p.isFinal, { s with processor := p })

/-- What comes of waiting for a result. -/
inductive Received (α : Type) where
  | result (r : Result α)
  | closed
  | pending

/-- Waits for one result. -/
def receive (shop : Workshop S ι σ α) (s : Processing S ι σ α) (limit : Nat) :
    Received α × Processing S ι σ α :=
  let (_, s) := s.await shop (fun s => !s.processor.output.isEmpty || s.processor.isFinal) (some limit)
  match s.processor.read with
  | some (r, p) => (.result r, { s with processor := p })
  | none => (if s.processor.isFinal then .closed else .pending, s)

/-- A shutdown is over when the stop is and, if results are read, there will be
no more. -/
def isShutDown (s : Processing S ι σ α) : Bool :=
  match s.shutdown with
  | some stop =>
    stop.stopping == .nothing &&
      (stop.taken.isNone || (s.processor.output.isEmpty && s.processor.isFinal))
  | none => true

/-- Stops the processor, waiting at most `limit`, and reads meanwhile if told
to: whether it stopped, and what was read. A stop given up is forgotten. -/
def stop (shop : Workshop S ι σ α) (s : Processing S ι σ α) (reading : Bool) (limit : Option Nat) :
    Bool × List (Result α) × Processing S ι σ α :=
  let (stopping, p, w) := s.processor.beginStop s.setting
  let s := { s with processor := p, setting := w, shutdown := some ⟨stopping, none⟩ }
  let s := s.turn.getD s
  let taken := if reading && s.isReading then some [] else none
  let s := match s.shutdown with
    | some stop => s.collect { stop with taken := taken }
    | none => s
  let (stopped, s) := s.await shop isShutDown limit
  (stopped, (s.shutdown.bind (·.taken)).getD [], { s with shutdown := none })

end Processing

end CallGuard.Scenario
