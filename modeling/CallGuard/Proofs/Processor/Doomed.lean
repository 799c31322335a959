/-
The worker of an aborted processor. Every scope that work is done in has ended, so that
no call of the operation is begun any more, and each item that has no outcome yet comes to
one, its cancellation (`outstanding`). The worker waits for nothing, and every step takes
it nearer to its end (`toil`).
-/
import CallGuard.Proofs.Processor.Order
import CallGuard.Proofs.Retry.Timing

namespace CallGuard.Processor

variable {S ι σ α : Type}

/-! ## Work that ends with its scope -/

/-- The outcome of a cancelled item. -/
abbrev cancelled : Except Failure α := .error (.scope .cancelled)

namespace Effort

variable {op : Operation S (Item ι) σ α} {config : Config} {order : Order ι} {now : Nat}
  {effort effort' : Effort σ α} {w w' : Setting S}

/-- The work on an item whose scope has ended ends with it in its next step, whatever it was
at. -/
theorem step_of_ended (op : Operation S (Item ι) σ α) (config : Config) {reason : ScopeEnd}
    (ended : order.scope.ended? w.signals now = some reason) (going : effort.outcome? = none) :
    ∃ effort' w', effort.step op config order now w = some (effort', w') ∧
      effort'.outcome? = some (.failure (.scope reason)) ∧
      (w'.signals = w.signals ∨ ∃ s, w'.signals = (op.drop s w).signals) := by
  have scope (policy : Retry.Policy) : (job config policy order).scope = order.scope := rfl
  cases effort with
  | ready =>
    simp only [step, Race.start, ended]
    exact ⟨_, _, rfl, rfl, .inl rfl⟩
  | trying s =>
    simp only [step, Race.resume, ended]
    exact ⟨_, _, rfl, rfl, .inr ⟨s, rfl⟩⟩
  | tried outcome => cases going
  | retrying policy run =>
    simp only [step, Retry.Run.step]
    cases hp : run.phase with
    | ready =>
      simp only [scope, Race.start, ended]
      exact ⟨_, _, rfl, rfl, .inl rfl⟩
    | trying s =>
      simp only [scope, Race.resume, ended]
      exact ⟨_, _, rfl, rfl, .inr ⟨s, rfl⟩⟩
    | pausing f due =>
      simp only [scope, ended]
      exact ⟨_, _, rfl, rfl, .inl rfl⟩
    | ended outcome =>
      simp only [outcome?, Retry.Run.outcome?, hp] at going
      cases going

theorem not_begun_of_cancelled (ended : order.scope.ended? w.signals now = some .cancelled)
    (request : Item ι) : .begun request ∉ effort.notes op config order now w := by
  have scope (policy : Retry.Policy) : (job config policy order).scope = order.scope := rfl
  cases effort with
  | ready => simp only [notes, Race.startNotes, ended, List.not_mem_nil, not_false_eq_true]
  | trying s => simp [notes, Race.resumeNotes, ended]
  | tried outcome => exact List.not_mem_nil
  | retrying policy run =>
    simp only [notes, Retry.Run.notes]
    cases run.phase with
    | ready => simp [scope, Race.startNotes, ended]
    | trying s => simp [scope, Race.resumeNotes, ended]
    | pausing f due | ended outcome => exact List.not_mem_nil

end Effort

/-! ## What the worker still has to do -/

section

variable {op : Operation S (Item ι) σ α} {now : Nat} {p p' : Processor ι σ α} {s s' : Setting S}

/-- The item in work, with the outcome that the work on it has come to, or else with its
cancellation. -/
def Task.outstanding : Task ι σ α → List (Item ι × Except Failure α)
  | .working order effort => [(order.item, effort.outcome?.elim cancelled resultOf)]
  | _ => []

/-- The items that no outcome was recorded for, in order, each with what is recorded when
all work is cancelled. -/
def outstanding (p : Processor ι σ α) : List (Item ι × Except Failure α) :=
  p.task?.elim [] (·.outstanding) ++ p.input.map (·, cancelled)

/-- The worker has not come to an outcome that it has yet to record. It records an outcome
in the same turn in which it comes to it. -/
def AtRest (p : Processor ι σ α) : Prop :=
  ∀ order effort, p.task? = some (.working order effort) → effort.outcome? = none

theorem outstanding_of_atRest (h : AtRest p) :
    p.outstanding = (p.inWork ++ p.input).map (·, cancelled) := by
  rw [outstanding, List.map_append, inWork]
  congr 1
  cases ht : p.task? with
  | none => rfl
  | some task =>
    cases task with
    | working order effort => simp only [Option.elim_some, Task.outstanding, h order effort ht]; rfl
    | starting | idle | delivering result | stopped => rfl

theorem atRest_of_waits (h : p.workerStep op now s = none) : AtRest p := by
  intro order effort ht
  obtain ⟨⟨task, drained⟩, hw, rfl⟩ := Option.map_eq_some_iff.1 ht
  cases ho : effort.outcome? with
  | none => rfl
  | some outcome => simp only [workerStep, hw, Option.bind_some, work, ho, reduceCtorEq] at h

/-- A bound on the steps of a worker at a task, up to where it next looks for an item. -/
def Task.toil : Task ι σ α → Nat
  | .starting | .delivering _ => 2
  | .idle => 1
  | .working _ effort => if effort.outcome?.isSome then 3 else 4
  | .stopped => 0

/-- A bound on the steps of the worker until it is gone, when all work is cancelled. -/
def toil (p : Processor ι σ α) : Nat :=
  match p.worker with
  | none | some ⟨.stopped, _⟩ => 0
  | some ⟨task, drained⟩ => task.toil + 4 * p.input.length + if drained.isSome then 0 else 1

theorem toil_le (p : Processor ι σ α) : p.toil ≤ 4 * p.input.length + 5 := by
  unfold toil
  split
  · exact Nat.zero_le _
  · exact Nat.zero_le _
  · rename_i task drained _ _
    have task_le : task.toil ≤ 4 := by
      cases task with
      | working order effort =>
        simp only [Task.toil]
        split <;> decide
      | starting | idle | delivering result | stopped => exact Nat.le_of_ble_eq_true rfl
    have drained_le : (if drained.isSome = true then 0 else 1) ≤ 1 := by split <;> decide
    omega

theorem isStopped_of_toil {worker : Worker ι σ α} (hw : p.worker = some worker) (h : p.toil = 0) :
    worker.isStopped = true := by
  obtain ⟨task, drained⟩ := worker
  cases task with
  | stopped => rfl
  | working order effort =>
    simp only [toil, hw, Task.toil] at h
    split at h <;> omega
  | starting | idle | delivering result =>
    simp only [toil, hw, Task.toil] at h
    omega

/-- The worker of a closing processor waits for nothing but a call or the end of a pause. -/
theorem waits_of_closing (closing : p.closing = true) (h : p.workerStep op now s = none) :
    p.worker.all (·.isStopped) = true ∨ ∃ order effort drained,
      p.worker = some ⟨.working order effort, drained⟩ ∧ effort.outcome? = none ∧
        effort.step op p.config order now s = none := by
  cases hw : p.worker with
  | none => exact .inl rfl
  | some worker =>
    obtain ⟨task, drained⟩ := worker
    simp only [workerStep, hw, Option.bind_some] at h
    cases task with
    | starting => cases h
    | idle =>
      cases drained with
      | none => simp only [wake, closing, if_true, reduceCtorEq] at h
      | some n =>
        simp only [wake] at h
        cases ht : p.take (some (n + 1)) now s <;> rw [ht] at h <;> cases h
    | working order effort =>
      cases going : effort.outcome? with
      | some outcome => simp only [work, going, reduceCtorEq] at h
      | none =>
        simp only [work, going, Option.map_eq_none_iff] at h
        exact .inr ⟨order, effort, drained, rfl, going, h⟩
    | delivering result =>
      simp only [deliver] at h
      split at h
      · cases h
      · rw [if_pos (.inr closing)] at h
        cases h
    | stopped => exact .inl rfl

/-- Work is done in scopes below that of the processor. -/
def Derived (p : Processor ι σ α) : Prop :=
  ∀ order effort drained, p.worker = some ⟨.working order effort, drained⟩ →
    order.scope.token.ancestors = p.lifetime.token.id :: p.lifetime.token.ancestors

theorem Derived.worked (h : Derived p) (hw : Worked op now p s p' s') : Derived p' := by
  intro order effort drained he
  cases hw with
  | took hw hi _ =>
    cases he
    rfl
  | tried hw _ _ =>
    cases he
    exact h _ _ _ hw
  | began _ | turned _ _ | halted _ _ | concluded _ _ | delivered _ _ | discarded _ _ _ => cases he

theorem Worked.lifetime (hw : Worked op now p s p' s') : p'.lifetime = p.lifetime := by
  cases hw <;> rfl

/-- The processor was aborted. -/
structure Doomed (p : Processor ι σ α) (s : Setting S) : Prop where
  closing : p.closing = true
  raised : s.signals.isRaised p.lifetime.token = true
  derived : Derived p

namespace Doomed

theorem ended (h : Doomed p s) {order : Order ι} {effort : Effort σ α} {drained : Option Nat}
    (hw : p.worker = some ⟨.working order effort, drained⟩) (now : Nat) :
    order.scope.ended? s.signals now = some .cancelled := by
  have raised : s.signals.isRaised order.scope.token = true := by
    have above := h.raised
    rw [Signals.isRaised] at above ⊢
    rw [List.any_cons, h.derived order effort drained hw, above, Bool.or_true]
  rw [Scope.ended?, if_pos raised]

theorem worked (h : Doomed p s) (keeps : op.KeepsCancelled) (hw : Worked op now p s p' s') :
    Doomed p' s' := by
  refine ⟨hw.steady.2.2.1.trans h.closing, ?_, h.derived.worked hw⟩
  rw [hw.lifetime]
  have raised := h.raised
  cases hw with
  | tried worker going hs =>
    obtain ⟨effort', w', he, -, same | ⟨state, same⟩⟩ :=
      Effort.step_of_ended op p.config (h.ended worker now) going
    · rw [hs] at he
      cases he
      rw [same]
      exact raised
    · rw [hs] at he
      cases he
      rw [same]
      exact keeps.drop state s _ raised
  | began _ | turned _ _ | took _ _ _ | halted _ _ | concluded _ _ | delivered _ _ | discarded _ _ _ =>
    exact raised

theorem toil_lt (h : Doomed p s) (hw : Worked op now p s p' s') : p'.toil < p.toil := by
  cases hw with
  | began worker | delivered worker _ | discarded worker _ _ =>
    simp only [toil, worker, assign, count, Task.toil]
    omega
  | turned worker _ | halted worker _ =>
    simp only [toil, worker, assign, Task.toil, Option.isSome_none, Option.isSome_some,
      Bool.false_eq_true, if_true, if_false]
    omega
  | @took drained item input worker hi opened =>
    have turned : drained.isSome = true := by
      cases drained with
      | none => exact absurd (opened rfl) (by rw [h.closing]; exact nofun)
      | some n => rfl
    have first : (Effort.initial (σ := σ) (α := α) p.config.policy).outcome? = none := by
      cases p.config.policy <;> rfl
    simp only [toil, worker, assign, Task.toil, hi, List.length_cons, first, turned, Option.isSome_map]
    simp
    omega
  | tried worker going hs =>
    obtain ⟨effort', w', he, came, -⟩ :=
      Effort.step_of_ended op p.config (h.ended worker now) going
    rw [hs] at he
    cases he
    simp only [toil, worker, assign, Task.toil, came, going]
    simp
  | concluded worker came =>
    simp only [toil, worker, conclude, count, assign, Task.toil, came]
    simp

theorem isSome_workerStep (h : Doomed p s) (op : Operation S (Item ι) σ α) (now : Nat)
    {worker : Worker ι σ α} (hw : p.worker = some worker) (going : worker.isStopped = false) :
    (p.workerStep op now s).isSome = true := by
  rw [Option.isSome_iff_ne_none]
  intro none
  rcases waits_of_closing h.closing none with stopped | ⟨order, effort, drained, hw', ho, waits⟩
  · rw [hw, Option.all_some, going] at stopped
    cases stopped
  · obtain ⟨effort', w', he, -⟩ := Effort.step_of_ended op p.config (h.ended hw' now) ho
    rw [waits] at he
    cases he

/-- What the worker records is what was outstanding. -/
theorem recorded_watch (h : Doomed p s) (hw : Worked op now p s p' s') (b : Books ι α) :
    (b.watch p p').admitted = b.admitted ∧ ∃ new, (b.watch p p').recorded = b.recorded ++ new ∧
      p.outstanding = new.map (fun r => (r.1, r.2.outcome)) ++ p'.outstanding := by
  cases hw with
  | began worker | turned worker _ | halted worker _ =>
    have ht := task?_of_worker worker
    refine ⟨by simp only [Books.watch, ht, task?_assign], [],
      by simp only [Books.watch, ht, task?_assign, List.append_nil], ?_⟩
    simp only [outstanding, ht, task?_assign, Option.elim_some, Task.outstanding, List.map_nil,
      List.nil_append]
    rfl
  | took worker hi _ =>
    have ht := task?_of_worker worker
    refine ⟨by simp only [Books.watch, ht, task?_assign], [],
      by simp only [Books.watch, ht, task?_assign, List.append_nil], ?_⟩
    have first : (Effort.initial (σ := σ) (α := α) p.config.policy).outcome? = none := by
      cases p.config.policy <;> rfl
    simp only [outstanding, ht, task?_assign, Option.elim_some, Task.outstanding, first, hi]
    rfl
  | tried worker going hs =>
    obtain ⟨effort', w', he, came, -⟩ :=
      Effort.step_of_ended op p.config (h.ended worker now) going
    rw [hs] at he
    cases he
    have ht := task?_of_worker worker
    refine ⟨by simp only [Books.watch, ht, task?_assign], [],
      by simp only [Books.watch, ht, task?_assign, List.append_nil], ?_⟩
    simp only [outstanding, ht, task?_assign, Option.elim_some, Task.outstanding, came, going]
    rfl
  | @concluded drained order effort outcome worker came =>
    have ht := task?_of_worker worker
    refine ⟨by simp only [Books.watch, ht, conclude, task?_assign, Books.record],
      [(order.item, ⟨order.item.id, resultOf outcome, now - order.started⟩)],
      by simp only [Books.watch, ht, conclude, task?_assign, Books.record], ?_⟩
    simp only [outstanding, ht, Option.elim_some, Task.outstanding, came]
    rfl
  | delivered worker _ | discarded worker _ _ =>
    have ht := task?_of_worker worker
    refine ⟨by simp only [Books.watch, ht, task?_assign, Books.settle], [],
      by simp only [Books.watch, ht, task?_assign, Books.settle, List.append_nil], ?_⟩
    simp only [outstanding, ht, task?_assign, Option.elim_some, Task.outstanding, List.map_nil,
      List.nil_append]
    rfl

end Doomed

end

end CallGuard.Processor
