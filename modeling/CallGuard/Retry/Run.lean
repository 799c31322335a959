/-
A retried operation: a run is at a try, in the pause after a failed one, or at
its end. In a pause the end of the scope outranks the end of the budget, and
that the next try.
-/
import CallGuard.Race
import CallGuard.Retry.Policy
import CallGuard.Retry.Patterns

namespace CallGuard.Retry

variable {S ι σ α : Type}

/-- What a run has to do and within which bounds. -/
structure Job (ι : Type) where
  request : ι
  scope : Scope
  policy : Policy
  patterns : List String
  started : Nat

namespace Job

/-- When the budget is spent; a budget beyond the end of the clock never is. -/
def budgetEnd (job : Job ι) : Option Nat := Instant.after? job.started job.policy.budget

end Job

/-- What a run of retries is at. -/
inductive Phase (σ α : Type) where
  /-- About to make a try. -/
  | ready
  | trying (s : σ)
  /-- The latest try failed; the next one is due. -/
  | pausing (failure : Failure) (due : Nat)
  | ended (outcome : Outcome α)

/-- How far a run of retries has come. -/
structure Run (σ α : Type) where
  /-- Tries made so far. -/
  attempt : Nat
  /-- The instants of the tries made so far, the latest first. -/
  calls : List Nat
  /-- The pause after the next failure. -/
  pause : Nat
  phase : Phase σ α

namespace Run

/-- A run that has made no try yet. -/
def initial (policy : Policy) : Run σ α := ⟨0, [], policy.initial, .ready⟩

/-- Takes in how a try ended: a failure that may be retried begins a pause. -/
def settle (job : Job ι) (now : Nat) (run : Run σ α) (w : Setting S) :
    Verdict α → Run σ α × Setting S
  | .scopeEnded reason => ({ run with phase := .ended (.failure (.scope reason)) }, w)
  | .completed (.failure f) =>
    if isFinal job.patterns f then
      ({ run with phase := .ended (.failure f) }, w.log (.notRetried run.attempt f.text))
    else ({ run with phase := .pausing f (Instant.pauseEnd now run.pause) }, w)
  | .completed outcome => ({ run with phase := .ended outcome }, w)

/-- Takes in how far a try has come. -/
def proceed (job : Job ι) (now : Nat) (run : Run σ α) :
    Setting S × Progress σ (Verdict α) → Run σ α × Setting S
  | (w, .waiting s) => ({ run with phase := .trying s }, w)
  | (w, .finished verdict) => run.settle job now w verdict

/-- One step of a run, if there is one to make now. -/
def step (op : Operation S ι σ α) (job : Job ι) (now : Nat) (run : Run σ α) (w : Setting S) :
    Option (Run σ α × Setting S) :=
  match run.phase with
  | .ready =>
    let run := { run with attempt := run.attempt + 1, calls := now :: run.calls }
    some (run.proceed job now (Race.start op job.request run.attempt job.scope now w))
  | .trying s => (Race.resume op job.scope now s w).map (run.proceed job now)
  | .pausing f due =>
    match job.scope.ended? w.signals now with
    | some reason => some ({ run with phase := .ended (.failure (.scope reason)) }, w)
    | none =>
      if job.budgetEnd.any (· ≤ now) then
        let elapsed := now - job.started
        some ({ run with phase := .ended (.failure (.exhausted elapsed run.attempt f)) },
          w.log (.budgetExhausted run.attempt elapsed f.text))
      else if due ≤ now then
        some ({ run with phase := .ready, pause := job.policy.next run.pause },
          w.log (.retrying run.attempt run.pause f.text))
      else none
  | .ended _ => none

/-- The instants at which a waiting run may go on. -/
def dues (op : Operation S ι σ α) (job : Job ι) (run : Run σ α) : List Nat :=
  match run.phase with
  | .trying s => Race.dues op job.scope s
  | .pausing _ due => due :: (job.scope.deadline.toList ++ job.budgetEnd.toList)
  | .ready | .ended _ => []

/-- How the run has ended, if it has. -/
def outcome? (run : Run σ α) : Option (Outcome α) :=
  match run.phase with
  | .ended outcome => some outcome
  | _ => none

/-- Abandons a run where it is. -/
def drop (op : Operation S ι σ α) (run : Run σ α) (w : Setting S) : Setting S :=
  match run.phase with
  | .trying s => op.drop s w
  | _ => w

end Run

end CallGuard.Retry
