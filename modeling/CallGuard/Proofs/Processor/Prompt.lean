/-
Prompt runs of a processor: time passes only when neither the worker nor the reporter nor a
stop has anything to do, and never beyond the millisecond at which a wait is over. Only a
call may take its time, as long as its scope has not ended. In such a run an item that has a
deadline is recorded in the millisecond of its deadline, or before.
-/
import CallGuard.Proofs.Processor.Abort

namespace CallGuard.Processor

variable {S ι σ α : Type}

/-! ## What the work on an item waits for -/

namespace Effort

variable {op : Operation S (Item ι) σ α} {config : Config} {order : Order ι} {now : Nat}
  {effort : Effort σ α} {w w' : Setting S}

/-- Work that waits is at a call or in a pause, and its scope has not ended. -/
theorem waits_of_step_eq_none (h : effort.step op config order now w = none)
    (going : effort.outcome? = none) : order.scope.ended? w.signals now = none ∧
      (effort.stance = .calling ∨ ∃ f, effort.stance = .failed f) := by
  constructor
  · cases ended : order.scope.ended? w.signals now with
    | none => rfl
    | some reason =>
      obtain ⟨effort', w', stepped, -⟩ := step_of_ended op config ended going
      rw [h] at stepped
      cases stepped
  · cases effort with
    | ready => cases h
    | trying s => exact .inl rfl
    | tried outcome => cases going
    | retrying policy run =>
      cases hp : run.phase with
      | ready => simp only [step, Retry.Run.step, hp, Option.map_some, reduceCtorEq] at h
      | trying s => exact .inl (by simp only [stance, hp, Stance.ofPhase])
      | pausing f due => exact .inr ⟨f, by simp only [stance, hp, Stance.ofPhase]⟩
      | ended outcome => simp only [outcome?, Retry.Run.outcome?, hp, reduceCtorEq] at going

theorem deadline_mem_dues (op : Operation S (Item ι) σ α) (config : Config)
    (waits : effort.stance = .calling ∨ ∃ f, effort.stance = .failed f) {d : Nat}
    (hd : order.scope.deadline = some d) : d ∈ effort.dues op config order := by
  cases effort with
  | ready | tried outcome =>
    rcases waits with calling | ⟨f, failed⟩
    · cases calling
    · cases failed
  | trying s =>
    simp only [dues, Race.dues, hd, Option.toList_some, List.mem_append, List.mem_singleton, true_or]
  | retrying policy run =>
    have scope : (job config policy order).scope = order.scope := rfl
    cases hp : run.phase with
    | ready | ended outcome =>
      simp only [stance, hp, Stance.ofPhase, reduceCtorEq, exists_false, or_false] at waits
    | trying s =>
      simp only [dues, Retry.Run.dues, hp, Race.dues, scope, hd, Option.toList_some, List.mem_append,
        List.mem_singleton, true_or]
    | pausing f due =>
      simp only [dues, Retry.Run.dues, hp, scope, hd, Option.toList_some, List.mem_cons, List.mem_append,
        List.not_mem_nil, or_false, true_or, or_true]

end Effort

/-! ## Prompt runs -/

/-- A call goes on within its scope. How long it takes is up to the operation. -/
def Calling (p : Processor ι σ α) (s : Setting S) (now : Nat) : Prop :=
  ∃ order effort, p.task? = some (.working order effort) ∧ effort.stance = .calling ∧
    order.scope.ended? s.signals now = none

namespace World

variable {op : Operation S (Item ι) σ α} {config : Config} {setting : Setting S} {w : World S ι σ α}
  {e : Event S ι} {events : List (Event S ι)}

/-- The clock may move on to an instant. -/
structure MayPass (op : Operation S (Item ι) σ α) (w : World S ι σ α) (instant : Nat) : Prop where
  worker : w.processor.workerStep op w.now w.setting = none ∨ Calling w.processor w.setting w.now
  reporter : w.processor.reporterStep w.now w.setting = none
  stopping : w.stopping.bind (w.processor.continueStop w.setting) = none
  due : ∀ due ∈ w.processor.dues op, w.now < due → instant ≤ Instant.tick due

/-- Whether an event may happen next. -/
def Allows (op : Operation S (Item ι) σ α) (w : World S ι σ α) : Event S ι → Prop
  | .pass d => w.MayPass op (w.now + d)
  | e => e.Lasts w.setting.signals

/-- Each of these events may happen when it does. -/
def Prompt (op : Operation S (Item ι) σ α) : World S ι σ α → List (Event S ι) → Prop
  | _, [] => True
  | w, e :: events => w.Allows op e ∧ Prompt op (w.apply op e) events

theorem Allows.lasts (h : w.Allows op e) : e.Lasts w.setting.signals := by
  cases e with
  | pass d => exact trivial
  | _ => exact h

theorem prompt_append {events' : List (Event S ι)} : w.Prompt op (events ++ events') ↔
    w.Prompt op events ∧ (events.foldl (apply op) w).Prompt op events' := by
  induction events generalizing w with
  | nil => exact ⟨fun h => ⟨trivial, h⟩, fun h => h.2⟩
  | cons e events ih =>
    rw [List.cons_append, Prompt, Prompt, ih, and_assoc]
    rfl

theorem play_append (op : Operation S (Item ι) σ α) (config : Config) (setting : Setting S)
    (events events' : List (Event S ι)) : play op config setting (events ++ events') =
      events'.foldl (apply op) (play op config setting events) := List.foldl_append

theorem prompt_concat : (initial config setting).Prompt op (events ++ [e]) ↔
    (initial config setting).Prompt op events ∧ (play op config setting events).Allows op e := by
  rw [prompt_append]
  exact and_congr_right fun _ => ⟨fun h => h.1, fun h => ⟨h, trivial⟩⟩

/-- Time stands still at every event but one. -/
theorem now_apply (op : Operation S (Item ι) σ α) (w : World S ι σ α) (he : ∀ d, e ≠ .pass d) :
    (w.apply op e).now = w.now := by
  have m := Happened.of_apply op w e
  generalize w.apply op e = w' at m ⊢
  cases m with
  | stopped => rw [stop, now_proceedStop, giveUpStop]
  | proceeded _ _ => exact now_proceedStop _
  | passed d => exact absurd rfl (he d)
  | ignored _ | admitted _ _ | refused _ | started _ | gaveUp | aborted | claimed _ | read _ _
  | unread _ | worked _ _ | reported _ _ | around setting => rfl

/-- Time passes only while the scope of the item in work lasts, and not beyond its deadline. -/
theorem MayPass.within {instant : Nat} (h : w.MayPass op instant) {order : Order ι} {effort : Effort σ α}
    (ht : w.processor.task? = some (.working order effort)) {d : Nat} (hd : order.scope.deadline = some d) :
    instant ≤ Instant.tick d := by
  obtain ⟨⟨task, drained⟩, hw, rfl⟩ := Option.map_eq_some_iff.1 ht
  have waits : order.scope.ended? w.setting.signals w.now = none ∧
      (effort.stance = .calling ∨ ∃ f, effort.stance = .failed f) := by
    rcases h.worker with idle | ⟨order', effort', ht', calling, going⟩
    · have going := atRest_of_waits idle order effort ht
      simp only [workerStep, hw, Option.bind_some, Processor.work, going, Option.map_eq_none_iff] at idle
      exact Effort.waits_of_step_eq_none idle going
    · rw [ht] at ht'
      cases ht'
      exact ⟨going, .inl calling⟩
  refine h.due d ?_ (Scope.lt_of_ended?_eq_none waits.1 hd)
  have due := Effort.deadline_mem_dues op w.processor.config waits.2 hd
  simp only [dues, hw, Option.toList_some, List.flatMap_cons, List.flatMap_nil, List.append_nil,
    List.mem_append, due, true_or]

/-! ## How long an item takes -/

end World

/-- The time for an item: its timeout, and a millisecond in which its timer fires. -/
def Config.itemSpan (config : Config) : Nat := config.itemTimeout + Span.ofMillis 1

namespace World

variable {op : Operation S (Item ι) σ α} {config : Config} {setting : Setting S} {w : World S ι σ α}
  {e : Event S ι} {events : List (Event S ι)}

/-- The item in work has a deadline: the clock does not end before. -/
def Dated (w : World S ι σ α) : Prop :=
  ∀ order effort, w.processor.task? = some (.working order effort) → order.scope.deadline ≠ none

instance (w : World S ι σ α) : Decidable w.Dated :=
  decidable_of_iff
    ((w.processor.task?.elim true fun
      | .working order _ => order.scope.deadline.isSome
      | _ => true) = true) <| by
    unfold Dated
    cases w.processor.task? with
    | none => exact iff_of_true rfl nofun
    | some task =>
      cases task with
      | working order effort =>
        simp only [Option.elim_some, Option.isSome_iff_ne_none, Option.some.injEq, Task.working.injEq]
        exact ⟨fun h _ _ same => same.1 ▸ h, fun h => h order effort ⟨rfl, rfl⟩⟩
      | starting | idle | delivering result | stopped => exact iff_of_true rfl nofun

/-- All items that are worked on have deadlines. -/
def AllDated (op : Operation S (Item ι) σ α) (config : Config) (setting : Setting S)
    (events : List (Event S ι)) : Prop :=
  ∀ first, first <+: events → (play op config setting first).Dated

theorem AllDated.left {events' : List (Event S ι)} (h : AllDated op config setting (events ++ events')) :
    AllDated op config setting events :=
  fun first hf => h first (hf.trans (List.prefix_append events events'))

/-- How the work on an item stands with the clock. -/
structure OnClock (config : Config) (now : Nat) (order : Order ι) : Prop where
  started : order.started ≤ now
  deadline : order.scope.deadline = Instant.after? order.started config.itemTimeout
  within : ∀ d, order.scope.deadline = some d → now ≤ Instant.tick d

/-- No item is in work beyond its deadline. -/
structure Timed (w : World S ι σ α) : Prop where
  lifetime : w.processor.lifetime.deadline = none
  order : ∀ order effort, w.processor.task? = some (.working order effort) →
    OnClock w.processor.config w.now order

namespace Timed

theorem initial (config : Config) (setting : Setting S) :
    Timed (World.initial (ι := ι) (σ := σ) (α := α) config setting) :=
  ⟨rfl, nofun⟩

theorem worked {p : Processor ι σ α} {s : Setting S} (h : Timed w)
    (hw : Worked op w.now w.processor w.setting p s) {order : Order ι} {effort : Effort σ α}
    (ht : p.task? = some (.working order effort)) : OnClock p.config w.now order := by
  cases hw with
  | @took _ item _ worker hi _ =>
    cases ht
    have deadline : (w.processor.orderOf item w.now w.setting).1.scope.deadline =
        Instant.after? w.now w.processor.config.itemTimeout := by
      simp only [orderOf, Scope.withTimeout, h.lifetime, earlier]
    exact ⟨Nat.le_refl _, deadline, fun d hd => Instant.le_tick_of_after? (deadline ▸ hd)⟩
  | tried worker _ _ =>
    cases ht
    exact h.order _ _ (task?_of_worker worker)
  | began _ | turned _ _ | halted _ _ | concluded _ _ | delivered _ _ | discarded _ _ _ => cases ht

theorem apply (h : Timed w) (allows : w.Allows op e) : Timed (w.apply op e) := by
  have config : (w.apply op e).processor.config = w.processor.config := (steady_apply e).1
  cases he : e.isWork with
  | true =>
    cases Event.eq_work he
    simp only [World.apply, World.work]
    split
    · rename_i p s hs
      have hw := Worked.of_workerStep hs
      exact ⟨hw.lifetime ▸ h.lifetime, fun order effort ht => h.worked hw ht⟩
    · exact h
  | false =>
    obtain ⟨lifetime, worker⟩ := worker_apply op w he
    refine ⟨lifetime ▸ h.lifetime, fun order effort ht => ?_⟩
    rw [config]
    rcases worker with same | ⟨-, new⟩
    · have before : w.processor.task? = some (.working order effort) := by rw [← ht, task?, task?, same]
      have clock := h.order order effort before
      by_cases passes : ∃ d, e = .pass d
      · obtain ⟨d, rfl⟩ := passes
        have may : w.MayPass op (w.now + d) := allows
        exact ⟨Nat.le_trans clock.started (Nat.le_add_right _ _), clock.deadline,
          fun due hd => may.within before hd⟩
      · rw [now_apply op w fun d hd => passes ⟨d, hd⟩]
        exact clock
    · rw [task?, new] at ht
      cases ht

theorem play (prompt : (World.initial config setting).Prompt op events) :
    Timed (play op config setting events) := by
  induction events using List.reverseRecOn with
  | nil => exact .initial config setting
  | append_singleton events e ih =>
    obtain ⟨before, allows⟩ := prompt_concat.1 prompt
    rw [play_concat]
    exact (ih before).apply allows

end Timed

/-- A result that an event records is that of the item in work, or an answer without any work. -/
theorem mem_recorded_apply {r : Item ι × Result α} (h : r ∈ (w.apply op e).books.recorded) :
    r ∈ w.books.recorded ∨ r.2.elapsed = 0 ∨ ∃ order effort,
      w.processor.task? = some (.working order effort) ∧ r.2.elapsed = w.now - order.started := by
  have m := Happened.of_apply op w e
  generalize w.apply op e = w' at m h
  cases m with
  | worked worked _ =>
    cases worked with
    | @concluded drained order effort outcome worker came =>
      have ht := task?_of_worker worker
      simp only [Books.watch, ht, conclude, task?_assign, Books.record, List.mem_append,
        List.mem_singleton] at h
      rcases h with old | rfl
      · exact .inl old
      · exact .inr (.inr ⟨order, effort, ht, rfl⟩)
    | began worker | turned worker _ | took worker _ _ | halted worker _ | tried worker _ _ =>
      simp only [Books.watch, task?_of_worker worker, task?_assign] at h
      exact .inl h
    | delivered worker _ | discarded worker _ _ =>
      simp only [Books.watch, task?_of_worker worker, task?_assign, Books.settle] at h
      exact .inl h
  | stopped =>
    rw [stop, books_proceedStop, Books.watchStop] at h
    split at h
    · rw [Books.recorded_watchAnswers] at h
      rcases List.mem_append.1 h with old | new
      · exact .inl old
      · obtain ⟨item, -, rfl⟩ := List.mem_map.1 new
        exact .inr (.inl rfl)
    · exact .inl h
  | proceeded _ _ =>
    rw [books_proceedStop] at h
    exact .inl h
  | ignored _ | admitted _ _ | refused _ | started _ | gaveUp | aborted | claimed _ | read _ _
  | unread _ | reported _ _ | passed d | around setting => exact .inl h

/-- **An item takes no longer than its timeout and a begun millisecond.** -/
theorem elapsed_lt (prompt : (initial config setting).Prompt op events)
    (dated : AllDated op config setting events) :
    ∀ r ∈ (play op config setting events).books.recorded, r.2.elapsed < config.itemSpan := by
  have span : config.itemSpan = config.itemTimeout + 1000000 := rfl
  induction events using List.reverseRecOn with
  | nil => exact nofun
  | append_singleton events e ih =>
    obtain ⟨before, -⟩ := prompt_concat.1 prompt
    intro r hr
    rw [play_concat] at hr
    rcases mem_recorded_apply hr with old | unworked | ⟨order, effort, ht, elapsed⟩
    · exact ih before dated.left r old
    · omega
    · obtain ⟨d, hd⟩ := Option.ne_none_iff_exists'.1 (dated events (List.prefix_append _ _) order effort ht)
      have clock := (Timed.play before).order order effort ht
      have within := clock.within d hd
      have deadline := clock.deadline
      rw [hd, config_play] at deadline
      obtain ⟨due, -⟩ := Instant.after?_eq_some deadline.symm
      have := Instant.tick_lt d
      omega

end World

end CallGuard.Processor
