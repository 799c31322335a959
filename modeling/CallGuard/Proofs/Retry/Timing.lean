/-
What holds of every retried run: when its tries begin, that no operation is
started once the scope has ended, and when the budget ends it.
-/
import CallGuard.Proofs.Retry.Schedule
import CallGuard.Proofs.Scope.End

namespace CallGuard

variable {S ι σ α : Type}

namespace Retry

/-! ## After the end of the scope -/

namespace Run

theorem proceed_signals (job : Job ι) (now : Nat) (run : Run σ α) (w : Setting S)
    (p : Progress σ (Verdict α)) : (run.proceed job now (w, p)).2.signals = w.signals := by
  cases p with
  | waiting s => rfl
  | finished verdict =>
    cases verdict with
    | scopeEnded reason => rfl
    | completed outcome =>
      cases outcome with
      | value a => rfl
      | panic message => rfl
      | failure f =>
        simp only [proceed, settle]
        split <;> rfl

end Run

variable {op : Operation S ι σ α} {job : Job ι}

theorem start_isRaised (keeps : op.KeepsCancelled) {request : ι} {n : Nat} {scope : Scope} {now : Nat}
    {w w' : Setting S} {p} (hr : Race.start op request n scope now w = (w', p)) {t : Token}
    (h : w.signals.isRaised t = true) : w'.signals.isRaised t = true := by
  unfold Race.start at hr
  split at hr <;> cases hr
  · exact h
  · exact keeps.start request n scope now w t h

theorem resume_isRaised (keeps : op.KeepsCancelled) {scope : Scope} {now : Nat} {s : σ}
    {w w' : Setting S} {p} (hr : Race.resume op scope now s w = some (w', p)) {t : Token}
    (h : w.signals.isRaised t = true) : w'.signals.isRaised t = true := by
  unfold Race.resume at hr
  split at hr
  · cases hr
    exact keeps.drop s w t h
  · obtain ⟨⟨w'', q⟩, hq, hr⟩ := Option.map_eq_some_iff.1 hr
    cases hr
    exact keeps.resume now s w w' q t hq h

theorem Stepped.isRaised (keeps : op.KeepsCancelled) {now : Nat} {run run' : Run σ α}
    {w w' : Setting S} (hs : Stepped op job now run w run' w') {t : Token}
    (h : w.signals.isRaised t = true) : w'.signals.isRaised t = true := by
  cases hs with
  | began _ hr =>
    rw [Run.proceed_signals]
    exact start_isRaised keeps hr h
  | resumed _ hr =>
    rw [Run.proceed_signals]
    exact resume_isRaised keeps hr h
  | cut _ _ | exhausted _ _ _ _ | renewed _ _ _ _ => exact h

namespace World

variable {w : World S σ α}

/-- The scope of the run has ended. -/
def isOver (job : Job ι) (w : World S σ α) : Bool := (job.scope.ended? w.setting.signals w.now).isSome

/-- How many times an operation was started. -/
def launches (w : World S σ α) : Nat := w.tries.countP (·.launched)

theorem isOver_apply (keeps : op.KeepsCancelled) (h : w.isOver job = true) (e : Event S) :
    (w.apply op job e).isOver job = true := by
  cases e with
  | step =>
    simp only [apply, step]
    split
    · rename_i hs
      exact Scope.isSome_ended?_mono (Nat.le_refl _) (fun hr => (Stepped.of_step hs).isRaised keeps hr) h
    · exact h
  | pass instant =>
    simp only [apply]
    split
    · rename_i may
      exact Scope.isSome_ended?_mono (Nat.le_of_lt (mayPass_iff.1 may).2.1) (fun hr => hr) h
    · exact h
  | raise token =>
    exact Scope.isSome_ended?_mono (Nat.le_refl _) (fun hr => (Signals.isRaised_raise _ _ _).2 (.inl hr)) h
  | around site journal => exact h

theorem launches_apply (h : w.isOver job = true) (e : Event S) :
    (w.apply op job e).launches = w.launches := by
  cases e with
  | step =>
    obtain ⟨reason, hr⟩ := Option.isSome_iff_exists.1 h
    simp only [apply, step]
    split
    · simp only [launches, watch]
      split
      · -- The race is over before it starts its operation.
        rw [List.countP_cons_of_neg]
        simp only [Try.launched_take, Race.start, hr]
        exact Bool.false_ne_true
      · rename_i ht
        split
        · rw [ht]
          simp only [List.countP_cons, Try.launched_take]
        · rw [ht]
      · rfl
    · rfl
  | pass instant =>
    simp only [apply]
    split <;> rfl
  | raise token | around site journal => rfl

theorem launches_play (keeps : op.KeepsCancelled) (setting : Setting S) (before after : List (Event S))
    (h : (play op job setting before).isOver job = true) :
    (play op job setting (before ++ after)).launches = (play op job setting before).launches := by
  have both : (play op job setting (before ++ after)).isOver job = true ∧
      (play op job setting (before ++ after)).launches = (play op job setting before).launches := by
    induction after using List.reverseRecOn with
    | nil =>
      rw [List.append_nil]
      exact ⟨h, rfl⟩
    | append_singleton after e ih =>
      rw [← List.append_assoc, play_concat]
      exact ⟨isOver_apply keeps ih.1 e, (launches_apply ih.1 e).trans ih.2⟩
  exact both.2

end World

/-! ## Every run -/

/-- What holds of a run and the world `w` to which its events lead. -/
structure Scheduled (op : Operation S ι σ α) (job : Job ι) (setting : Setting S)
    (events : List (Event S)) (w : World S σ α) : Prop where
  /-- The run itself keeps the same account of its tries. -/
  calls : w.run.calls = w.tries.map (·.start)
  first : ∀ t, w.tries.getLast? = some t → t.number = 0 ∧ t.start = job.started
  follows : w.tries.reverse.IsChain (Follows job)
  guarded : ∀ t ∈ w.tries, Guarded t
  /-- Once the scope has ended, no operation is started any more. -/
  barred : op.KeepsCancelled → ∀ before after, events = before ++ after →
    (World.play op job setting before).isOver job = true →
      w.launches = (World.play op job setting before).launches
  exhausted : ∀ stop, w.exhausted = some stop →
    ∃ t, w.tries.head? = some t ∧ Exhausted job w.run t stop

/-- **The schedule of retries.** Whatever the tries do and whatever happens around
them, each begins exactly when it should. -/
theorem play_scheduled (op : Operation S ι σ α) (job : Job ι) (setting : Setting S)
    (events : List (Event S)) :
    Scheduled op job setting events (World.play op job setting events) := by
  have h := onSchedule_play op job setting events
  exact
    { calls := h.calls
      first := h.first
      follows := List.isChain_reverse.2 h.chain
      guarded := h.guarded
      barred := fun keeps before after he ended => by
        rw [he]
        exact World.launches_play keeps setting before after ended
      exhausted := h.exhausted }

/-- A pause that is set to last longer than thirty years does not, though the
clock reaches its end: the second try begins before. -/
theorem second_try_early :
    let op : Operation Unit Unit (Scope × Activity Nat) Nat :=
      .scripted (fun _ n => .finish (if n = 1 then .failure (.plain "connection reset") else .value 1))
        (fun _ _ s => s) (fun _ s => s)
    let policy := Policy.new Span.longest (Span.ofSeconds 1000000000) 0 0
    let w := World.play op ⟨(), ⟨⟨0, []⟩, none⟩, policy, [], 0⟩ ⟨.empty, [], ()⟩
      [.step, .pass (Span.ofSeconds 946080000), .step, .step]
    let pause := min (policy.initial + 0 * policy.step) policy.cap
    w.tries.map (fun t => (t.number, t.start, t.ending.map (·.1))) =
        [(1, Span.ofSeconds 946080000, some (Span.ofSeconds 946080000)), (0, 0, some 0)] ∧
      Instant.after? 0 pause = some pause ∧
      Span.ofSeconds 946080000 ≠ Instant.tick (0 + pause) := by
  decide +kernel

end Retry

end CallGuard
