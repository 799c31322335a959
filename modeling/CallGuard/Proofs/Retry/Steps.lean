/-
What one step of a retried run can do, case by case (`Stepped`), and what it
makes of the end of a try.
-/
import CallGuard.Retry.Run

namespace CallGuard.Retry

variable {S ι σ α : Type}

/-- A try that ended leads into a pause, if it failed and may be tried again, or
else to the end of the run. -/
theorem settle_cases (job : Job ι) (now : Nat) (run : Run σ α) (w : Setting S) (verdict : Verdict α) :
    (∃ f, verdict = .completed (.failure f) ∧ isFinal job.patterns f = false ∧
        (run.settle job now w verdict).1 =
          { run with phase := .pausing f (Instant.pauseEnd now run.pause) }) ∨
      ∃ outcome, (run.settle job now w verdict).1 = { run with phase := .ended outcome } := by
  cases verdict with
  | scopeEnded reason => exact .inr ⟨_, rfl⟩
  | completed outcome =>
    cases outcome with
    | value a => exact .inr ⟨_, rfl⟩
    | panic message => exact .inr ⟨_, rfl⟩
    | failure f =>
      cases hf : isFinal job.patterns f with
      | true =>
        simp only [Run.settle, hf, if_true]
        exact .inr ⟨_, rfl⟩
      | false =>
        simp only [Run.settle, hf, Bool.false_eq_true, if_false]
        exact .inl ⟨f, rfl, hf, rfl⟩

/-- A run that begins its next try. -/
def Run.counted (run : Run σ α) (now : Nat) : Run σ α :=
  { run with attempt := run.attempt + 1, calls := now :: run.calls }

/-- From `run` and `w`, one step leads to the last two arguments. -/
inductive Stepped (op : Operation S ι σ α) (job : Job ι) (now : Nat) (run : Run σ α) (w : Setting S) :
    Run σ α → Setting S → Prop
  | began {w' p} : run.phase = .ready →
      Race.start op job.request (run.attempt + 1) job.scope now w = (w', p) →
      Stepped op job now run w ((run.counted now).proceed job now (w', p)).1
        ((run.counted now).proceed job now (w', p)).2
  | resumed {s w' p} : run.phase = .trying s → Race.resume op job.scope now s w = some (w', p) →
      Stepped op job now run w (run.proceed job now (w', p)).1 (run.proceed job now (w', p)).2
  /-- The scope ends in a pause. -/
  | cut {f due reason} : run.phase = .pausing f due → job.scope.ended? w.signals now = some reason →
      Stepped op job now run w { run with phase := .ended (.failure (.scope reason)) } w
  | exhausted {f due b} : run.phase = .pausing f due → job.scope.ended? w.signals now = none →
      job.budgetEnd = some b → b ≤ now →
      Stepped op job now run w
        { run with phase := .ended (.failure (.exhausted (now - job.started) run.attempt f)) }
        (w.log (.budgetExhausted run.attempt (now - job.started) f.text))
  | renewed {f due} : run.phase = .pausing f due → job.scope.ended? w.signals now = none →
      (∀ b, job.budgetEnd = some b → now < b) → due ≤ now →
      Stepped op job now run w { run with phase := .ready, pause := job.policy.next run.pause }
        (w.log (.retrying run.attempt run.pause f.text))

/-- A run that has ended makes no step. -/
theorem Stepped.going {op : Operation S ι σ α} {job : Job ι} {now : Nat} {run run' : Run σ α}
    {w w' : Setting S} (h : Stepped op job now run w run' w') (outcome : Outcome α) :
    run.phase ≠ .ended outcome := by
  intro ended
  cases h with
  | began hp _ | resumed hp _ | cut hp _ | exhausted hp _ _ _ | renewed hp _ _ _ =>
    rw [hp] at ended
    cases ended

theorem any_budgetEnd_eq_true {job : Job ι} {now : Nat} (h : job.budgetEnd.any (· ≤ now) = true) :
    ∃ b, job.budgetEnd = some b ∧ b ≤ now := by
  simpa only [Option.any_eq_true, decide_eq_true_eq] using h

theorem any_budgetEnd_eq_false {job : Job ι} {now : Nat} (h : job.budgetEnd.any (· ≤ now) = false) :
    ∀ b, job.budgetEnd = some b → now < b := by
  intro b hb
  simpa [hb] using h

/-- **A step of a run is one of the cases.** -/
theorem Stepped.of_step {op : Operation S ι σ α} {job : Job ι} {now : Nat} {run run' : Run σ α}
    {w w' : Setting S} (h : run.step op job now w = some (run', w')) :
    Stepped op job now run w run' w' := by
  unfold Run.step at h
  split at h
  · rename_i hp
    obtain ⟨rfl, rfl⟩ := Prod.ext_iff.1 (Option.some.inj h)
    exact .began hp rfl
  · rename_i s hp
    obtain ⟨⟨w'', p⟩, hr, h⟩ := Option.map_eq_some_iff.1 h
    obtain ⟨rfl, rfl⟩ := Prod.ext_iff.1 h
    exact .resumed hp hr
  · rename_i f due hp
    split at h
    · rename_i reason hs
      cases h
      exact .cut hp hs
    · rename_i hs
      split at h
      · rename_i hb
        obtain ⟨b, hb, hl⟩ := any_budgetEnd_eq_true hb
        cases h
        exact .exhausted hp hs hb hl
      · rename_i hb
        split at h
        · rename_i hd
          cases h
          exact .renewed hp hs (any_budgetEnd_eq_false (Bool.eq_false_iff.2 hb)) hd
        · cases h
  · cases h

/-- A pause in which there is nothing to do lasts longer, within scope and budget. -/
theorem step_pausing_eq_none {op : Operation S ι σ α} {job : Job ι} {now : Nat} {run : Run σ α}
    {w : Setting S} {f due} (hp : run.phase = .pausing f due) (h : run.step op job now w = none) :
    now < due ∧ ∀ b, job.budgetEnd = some b → now < b := by
  simp only [Run.step, hp] at h
  split at h
  · cases h
  · split at h
    · cases h
    · rename_i hb
      split at h
      · cases h
      · rename_i hd
        exact ⟨Nat.lt_of_not_le hd, any_budgetEnd_eq_false (Bool.eq_false_iff.2 hb)⟩

end CallGuard.Retry
