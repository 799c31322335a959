/-
Items, their results, and the effort made on an item: one try, or as many as a
policy allows. A try that panics counts as one that failed.
-/
import CallGuard.Retry.Run
import CallGuard.Processor.Config

namespace CallGuard

namespace Processor

/-- A piece of work that was submitted, and when. -/
structure Item (ι : Type) where
  id : String
  payload : ι
  createdAt : Nat

/-- How the work on an item ended, and how long it took. -/
structure Result (α : Type) where
  id : String
  outcome : Except Failure α
  elapsed : Nat

/-- What is said of a panic. -/
def panicText : Option String → String
  | some message => message
  | none => "unknown panic payload"

/-- The outcome of a try as a result. -/
def resultOf {α : Type} : Outcome α → Except Failure α
  | .value a => .ok a
  | .failure f => .error f
  | .panic message => .error (.panicked (panicText message))

end Processor

/-- The operation with its panics caught: each is noted, and is a failure. -/
def Operation.catching {S ι σ α : Type} (op : Operation S ι σ α) : Operation S ι σ α where
  start request n scope now w := caught (op.start request n scope now w)
  resume now s w := (op.resume now s w).map caught
  drop := op.drop
  dues := op.dues
where
  caught : Setting S × Progress σ (Outcome α) → Setting S × Progress σ (Outcome α)
    | (w, .finished (.panic message)) =>
      (w.log (.itemPanicked (Processor.panicText message)),
        .finished (.failure (.panicked (Processor.panicText message))))
    | p => p

namespace Processor

variable {S ι σ α : Type}

/-- Work on an item: the item, within which scope, and since when. -/
structure Order (ι : Type) where
  item : Item ι
  scope : Scope
  started : Nat

/-- How far the work on an item has come. -/
inductive Effort (σ α : Type) where
  /-- About to make the only try. -/
  | ready
  | trying (s : σ)
  | tried (outcome : Outcome α)
  /-- As many tries as the policy allows. -/
  | retrying (policy : Retry.Policy) (run : Retry.Run σ α)

namespace Effort

/-- The work on an item as it begins, with or without a policy. -/
def initial : Option Retry.Policy → Effort σ α
  | some policy => .retrying policy (.initial policy)
  | none => .ready

/-- The order as a job under a policy. -/
def job (config : Config) (policy : Retry.Policy) (order : Order ι) : Retry.Job (Item ι) :=
  ⟨order.item, order.scope, policy, config.patterns, order.started⟩

/-- Takes in how far the only try has come. -/
def proceed : Setting S × Progress σ (Verdict α) → Effort σ α × Setting S
  | (w, .waiting s) => (.trying s, w)
  | (w, .finished verdict) => (.tried verdict.outcome, w)

/-- One step of an effort, if there is one to make now. -/
def step (op : Operation S (Item ι) σ α) (config : Config) (order : Order ι) (now : Nat)
    (effort : Effort σ α) (w : Setting S) : Option (Effort σ α × Setting S) :=
  match effort with
  | .ready => some (proceed (Race.start op.catching order.item 1 order.scope now w))
  | .trying s => (Race.resume op.catching order.scope now s w).map proceed
  | .tried _ => none
  | .retrying policy run =>
    (run.step op.catching (job config policy order) now w).map fun (run, w) =>
      (.retrying policy run, w)

/-- How the work has ended, if it has. -/
def outcome? : Effort σ α → Option (Outcome α)
  | .tried outcome => some outcome
  | .retrying _ run => run.outcome?
  | .ready | .trying _ => none

/-- The instants at which a waiting effort may go on. -/
def dues (op : Operation S (Item ι) σ α) (config : Config) (order : Order ι) :
    Effort σ α → List Nat
  | .trying s => Race.dues op order.scope s
  | .retrying policy run => run.dues op (job config policy order)
  | .ready | .tried _ => []

end Effort

end Processor

end CallGuard
