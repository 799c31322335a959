/-
Work raced against the end of a scope. The scope wins a tie, work whose scope
has already ended is never started, and work that loses is dropped.
-/
import CallGuard.Operation

namespace CallGuard

/-- How a race ends. -/
inductive Verdict (α : Type) where
  | scopeEnded (reason : ScopeEnd)
  | completed (outcome : Outcome α)

/-- A race lost to the end of a scope fails with it. -/
def Verdict.outcome {α : Type} : Verdict α → Outcome α
  | scopeEnded reason => .failure (.scope reason)
  | completed outcome => outcome

namespace Race

variable {S ι σ α : Type}

/-- Starts a try, unless the scope has ended. -/
def start (op : Operation S ι σ α) (request : ι) (n : Nat) (scope : Scope) (now : Nat)
    (w : Setting S) : Setting S × Progress σ (Verdict α) :=
  match scope.ended? w.signals now with
  | some reason => (w, .finished (.scopeEnded reason))
  | none =>
    let (w, p) := op.start request n scope now w
    (w, p.map id .completed)

/-- Goes on with a try, or drops it if the scope has ended. -/
def resume (op : Operation S ι σ α) (scope : Scope) (now : Nat) (s : σ) (w : Setting S) :
    Option (Setting S × Progress σ (Verdict α)) :=
  match scope.ended? w.signals now with
  | some reason => some (op.drop s w, .finished (.scopeEnded reason))
  | none => (op.resume now s w).map fun (w, p) => (w, p.map id .completed)

/-- The instants for which a try in its scope waits. -/
def dues (op : Operation S ι σ α) (scope : Scope) (s : σ) : List Nat :=
  scope.deadline.toList ++ op.dues s

end Race

end CallGuard
