/-
What a retried run returns. There are four ways (`Exit`), and each result is explained
by exactly one of them: the latest try's value, its failure as it is, the end of the
scope and nothing else, or its failure under the note that the budget is spent. The end
of the scope outranks all others, and the end of the budget outranks another try.
-/
import CallGuard.Proofs.Retry.Schedule
import CallGuard.Proofs.Scope.End

namespace CallGuard

variable {S ι σ α : Type}

namespace Retry

/-- What a run returns when it ends. A panic is passed on, and nothing is returned. -/
def returned? : Outcome α → Option (Except Failure α)
  | .value a => some (.ok a)
  | .failure f => some (.error f)
  | .panic _ => none

/-- The ways in which a run returns. -/
inductive Exit where
  | value
  /-- With a failure that is not worth another try. -/
  | final
  | scopeEnded
  | exhausted
  deriving DecidableEq, Repr

/-- A run that ended just now, in a try or after it, returned a result in a certain way. -/
def Exit.Explains (job : Job ι) (s : Signals) (now : Nat) (t : Try α) (r : Except Failure α) :
    Exit → Prop
  | .value => ∃ a, t.ending = some (now, .completed (.value a)) ∧ r = .ok a
  | .final => ∃ f, t.ending = some (now, .completed (.failure f)) ∧ isFinal job.patterns f = true ∧
      r = .error f
  | .scopeEnded => ∃ reason, job.scope.EndedBy s now reason ∧ r = .error (.scope reason)
  | .exhausted => ∃ e f g, t.ending = some (e, .completed (.failure f)) ∧ r = .error g ∧
      g = .exhausted (now - job.started) (t.number + 1) f ∧ job.policy.budget ≤ now - job.started ∧
      g.chain.getLast? = f.chain.getLast?

/-! ## How a run ends -/

/-- From `w`, in whose last step `t` was the latest try, a run ended. -/
inductive Ends (job : Job ι) (w : World S σ α) (t : Try α) : Outcome α → Prop
  | value {a} : job.scope.ended? w.setting.signals w.now = none →
      t.ending = some (w.now, .completed (.value a)) → Ends job w t (.value a)
  | panic {message} : job.scope.ended? w.setting.signals w.now = none →
      t.ending = some (w.now, .completed (.panic message)) → Ends job w t (.panic message)
  | final {f} : job.scope.ended? w.setting.signals w.now = none →
      t.ending = some (w.now, .completed (.failure f)) → isFinal job.patterns f = true →
      Ends job w t (.failure f)
  /-- In a try that is cut short, or in the pause after one that may be repeated. -/
  | cut {reason} : job.scope.ended? w.setting.signals w.now = some reason →
      (∀ e f, t.ending = some (e, .completed (.failure f)) → isFinal job.patterns f = false) →
      Ends job w t (.failure (.scope reason))
  | exhausted {e f b} : job.scope.ended? w.setting.signals w.now = none →
      t.ending = some (e, .completed (.failure f)) → isFinal job.patterns f = false →
      job.budgetEnd = some b → b ≤ w.now →
      Ends job w t (.failure (.exhausted (w.now - job.started) (t.number + 1) f))

/-- A race tells of the end of its scope if and only if it has ended, and of nothing else
then. -/
inductive Raced (scope : Scope) (s : Signals) (now : Nat) : Progress σ (Verdict α) → Prop
  | lost {reason} : scope.ended? s now = some reason → Raced scope s now (.finished (.scopeEnded reason))
  | waiting {state} : scope.ended? s now = none → Raced scope s now (.waiting state)
  | completed {outcome} : scope.ended? s now = none → Raced scope s now (.finished (.completed outcome))

theorem Raced.of_map {scope : Scope} {s : Signals} {now : Nat} (h : scope.ended? s now = none)
    (p : Progress σ (Outcome α)) : Raced scope s now (p.map id .completed) := by
  cases p with
  | waiting state => exact .waiting h
  | finished outcome => exact .completed h

theorem raced_start {op : Operation S ι σ α} {request : ι} {n : Nat} {scope : Scope} {now : Nat}
    {w w' : Setting S} {p : Progress σ (Verdict α)}
    (h : Race.start op request n scope now w = (w', p)) : Raced scope w.signals now p := by
  unfold Race.start at h
  split at h
  · rename_i reason hs
    cases h
    exact .lost hs
  · rename_i hs
    cases h
    exact .of_map hs _

theorem raced_resume {op : Operation S ι σ α} {scope : Scope} {now : Nat} {state : σ}
    {w w' : Setting S} {p : Progress σ (Verdict α)}
    (h : Race.resume op scope now state w = some (w', p)) : Raced scope w.signals now p := by
  unfold Race.resume at h
  split at h
  · rename_i reason hs
    cases h
    exact .lost hs
  · rename_i hs
    obtain ⟨⟨w'', q⟩, -, h⟩ := Option.map_eq_some_iff.1 h
    cases h
    exact .of_map hs q

theorem Raced.ends {job : Job ι} {w : World S σ α} {run : Run σ α} {t : Try α} {setting : Setting S}
    {p : Progress σ (Verdict α)} {outcome : Outcome α}
    (h : Raced job.scope w.setting.signals w.now p)
    (ended : (run.proceed job w.now (setting, p)).1.phase = .ended outcome) :
    Ends job w (t.take w.now p) outcome := by
  cases h with
  | waiting _ => cases ended
  | lost hs =>
    cases ended
    refine .cut hs fun e f he => ?_
    cases he
  | @completed result hs =>
    cases result with
    | value a =>
      cases ended
      exact .value hs rfl
    | panic message =>
      cases ended
      exact .panic hs rfl
    | failure f =>
      simp only [Run.proceed, Run.settle] at ended
      split at ended
      · rename_i hf
        cases ended
        exact .final hs rfl hf
      · cases ended

namespace World

variable {op : Operation S ι σ α} {job : Job ι} {w : World S σ α}

/-- **How a step ends a run.** -/
theorem ends_of_step (h : OnSchedule job w) (going : ∀ o, w.run.phase ≠ .ended o) {outcome : Outcome α}
    (ended : (w.step op job).run.phase = .ended outcome) :
    ∃ t, (w.step op job).tries.head? = some t ∧ Ends job w t outcome := by
  unfold step at ended ⊢
  cases hs : w.run.step op job w.now w.setting with
  | none =>
    rw [hs] at ended
    exact absurd ended (going outcome)
  | some r =>
  obtain ⟨run, setting⟩ := r
  rw [hs] at ended
  simp only at ended ⊢
  cases Stepped.of_step hs with
  | began hp hr =>
    simp only [watch, hp, hr, List.head?_cons, Option.some.injEq, exists_eq_left']
    exact (raced_start hr).ends ended
  | @resumed s w' p hp hr =>
    have stands := h.stands
    rw [hp] at stands
    obtain ⟨now, setting, run, tries, exhausted⟩ := w
    cases stands with
    | trying _ _ =>
    simp only at hp hr
    simp only [watch, hp, hr, List.head?_cons, Option.some.injEq, exists_eq_left']
    exact (raced_resume hr).ends ended
  | cut hp hend =>
    cases ended
    obtain ⟨t, e, ht, he, hf, -⟩ := h.pausing hp
    simp only [watch, hp]
    refine ⟨t, ht, .cut hend fun e' f' he' => ?_⟩
    rw [he] at he'
    cases he'
    exact hf
  | exhausted hp hend hb spent =>
    cases ended
    obtain ⟨t, e, ht, he, hf, -⟩ := h.pausing hp
    simp only [watch, hp]
    refine ⟨t, ht, ?_⟩
    rw [h.attempt, ← h.latest t ht]
    exact .exhausted hend he hf hb spent
  | renewed _ _ _ _ => cases ended

end World

/-! ## What the end of a run explains -/

theorem getLast?_chain_exhausted (elapsed attempts : Nat) (f : Failure) :
    (Failure.exhausted elapsed attempts f).chain.getLast? = f.chain.getLast? := by
  have chained := f.head?_chain
  simp only [Failure.chain]
  cases hc : f.chain with
  | nil =>
    rw [hc] at chained
    cases chained
  | cons text texts => rw [List.getLast?_cons_cons]

theorem budget_le_elapsed {job : Job ι} {b now : Nat} (hb : job.budgetEnd = some b) (spent : b ≤ now) :
    job.policy.budget ≤ now - job.started := by
  unfold Job.budgetEnd Instant.after? at hb
  split at hb
  · cases hb
    omega
  · cases hb

theorem Exit.eq_value {job : Job ι} {s : Signals} {now : Nat} {t : Try α} {a : α} {exit : Exit}
    (h : exit.Explains job s now t (.ok a)) : exit = .value := by
  cases exit with
  | value => rfl
  | final =>
    obtain ⟨f, -, -, hr⟩ := h
    cases hr
  | scopeEnded =>
    obtain ⟨reason, -, hr⟩ := h
    cases hr
  | exhausted =>
    obtain ⟨e, f, g, -, hr, -⟩ := h
    cases hr

/-- What explains a failure: it is the final failure of the try, or the scope ended with
it, or it is the try's failure under the note that the budget is spent. -/
theorem Exit.explains_error {job : Job ι} {s : Signals} {now : Nat} {t : Try α} {g : Failure}
    {exit : Exit} (h : exit.Explains job s now t (.error g)) :
    exit = .final ∧ t.ending = some (now, .completed (.failure g)) ∧ isFinal job.patterns g = true ∨
      exit = .scopeEnded ∧ (∃ reason, job.scope.EndedBy s now reason ∧ g = .scope reason) ∨
      exit = .exhausted ∧ ∃ e f, t.ending = some (e, .completed (.failure f)) ∧
        g = .exhausted (now - job.started) (t.number + 1) f := by
  cases exit with
  | value =>
    obtain ⟨a, -, hr⟩ := h
    cases hr
  | final =>
    obtain ⟨f, ht, hf, hr⟩ := h
    cases hr
    exact .inl ⟨rfl, ht, hf⟩
  | scopeEnded =>
    obtain ⟨reason, hs, hr⟩ := h
    cases hr
    exact .inr (.inl ⟨rfl, reason, hs, rfl⟩)
  | exhausted =>
    obtain ⟨e, f, g, ht, hr, hg, -⟩ := h
    cases hr
    exact .inr (.inr ⟨rfl, e, f, ht, hg⟩)

/-- **Each result is explained in exactly one way**, by the state of the scope just before
the end or, if the last step has not cancelled it, just after. -/
theorem Ends.existsUnique {job : Job ι} {w : World S σ α} {t : Try α} {outcome : Outcome α}
    (h : Ends job w t outcome) {s : Signals}
    (same : job.scope.ended? s w.now = job.scope.ended? w.setting.signals w.now)
    {r : Except Failure α} (returned : returned? outcome = some r) :
    ∃! exit : Exit, exit.Explains job s w.now t r := by
  cases h with
  | @value a open_ ht =>
    cases returned
    exact ⟨.value, ⟨a, ht, rfl⟩, fun exit he => Exit.eq_value he⟩
  | panic _ _ => cases returned
  | @final f open_ ht hf =>
    cases returned
    refine ⟨.final, ⟨f, ht, hf, rfl⟩, fun exit he => ?_⟩
    rcases Exit.explains_error he with ⟨hx, -⟩ | ⟨-, reason, hs, -⟩ | ⟨-, e, f', ht', hg⟩
    · exact hx
    · -- The scope has not ended, whatever the failure says.
      rw [← Scope.ended?_eq_some_iff, same, open_] at hs
      cases hs
    · -- No failure is its own cause.
      rw [ht] at ht'
      cases ht'
      cases hg
  | @cut reason hs notFinal =>
    cases returned
    refine ⟨.scopeEnded, ⟨reason, Scope.ended?_eq_some_iff.1 (same.trans hs), rfl⟩, fun exit he => ?_⟩
    rcases Exit.explains_error he with ⟨-, ht, hf⟩ | ⟨hx, -⟩ | ⟨-, e, f, -, hg⟩
    · rw [notFinal w.now _ ht] at hf
      cases hf
    · exact hx
    · cases hg
  | @exhausted e f b open_ ht hf hb spent =>
    cases returned
    refine ⟨.exhausted, ⟨e, f, _, ht, rfl, rfl, budget_le_elapsed hb spent,
      getLast?_chain_exhausted _ _ f⟩, fun exit he => ?_⟩
    rcases Exit.explains_error he with ⟨-, ht', -⟩ | ⟨-, reason, -, hg⟩ | ⟨hx, -⟩
    · rw [ht] at ht'
      cases ht'
    · cases hg
    · exact hx

/-! ## Runs -/

namespace World

variable {op : Operation S ι σ α} {job : Job ι} {w : World S σ α}

theorem apply_of_ended {outcome : Outcome α} (ended : w.run.phase = .ended outcome) (e : Event S) :
    (w.apply op job e).run = w.run ∧ (w.apply op job e).tries = w.tries := by
  cases e with
  | step =>
    have none : w.run.step op job w.now w.setting = none := by
      simp only [Run.step, ended]
    simp only [apply, step, none, and_self]
  | pass instant =>
    simp only [apply]
    split <;> exact ⟨rfl, rfl⟩
  | raise token | around site journal => exact ⟨rfl, rfl⟩

theorem eq_step_of_ended {outcome : Outcome α} (going : ∀ o, w.run.phase ≠ .ended o) {e : Event S}
    (ended : (w.apply op job e).run.phase = .ended outcome) : e = .step := by
  cases e with
  | step => rfl
  | pass instant =>
    simp only [apply] at ended
    split at ended <;> exact absurd ended (going outcome)
  | raise token | around site journal => exact absurd ended (going outcome)

theorem step_of_over (going : ∀ o, w.run.phase ≠ .ended o) {reason : ScopeEnd}
    (hs : job.scope.ended? w.setting.signals w.now = some reason) :
    (w.step op job).run.phase = .ended (.failure (.scope reason)) := by
  unfold step
  cases hp : w.run.phase with
  | ready => simp only [Run.step, hp, Race.start, hs, Run.proceed, Run.settle]
  | trying s => simp only [Run.step, hp, Race.resume, hs, Option.map_some, Run.proceed, Run.settle]
  | pausing f due => simp only [Run.step, hp, hs]
  | ended o => exact absurd hp (going o)

theorem step_of_spent {f : Failure} {due b : Nat} (hp : w.run.phase = .pausing f due)
    (open_ : job.scope.ended? w.setting.signals w.now = none) (hb : job.budgetEnd = some b)
    (spent : b ≤ w.now) : (w.step op job).run.phase =
      .ended (.failure (.exhausted (w.now - job.started) w.run.attempt f)) := by
  unfold step
  simp only [Run.step, hp, open_, hb, Option.any_some, decide_eq_true spent, if_true]

end World

/-- The last step of a run leads from `w` to `w'`, and ends in `outcome`. -/
structure LastStep (job : Job ι) (w w' : World S σ α) (t : Try α) (outcome : Outcome α) : Prop where
  going : ∀ o, w.run.phase ≠ .ended o
  ended : w'.run.phase = .ended outcome
  latest : w'.tries.head? = some t
  counted : w'.run.attempt = t.number + 1 ∧ w'.tries.length = t.number + 1
  panicked : ∀ message, outcome = .panic message →
    t.ending = some (w.now, .completed (.panic message))
  returned : ∀ r, returned? outcome = some r →
    ∃! exit : Exit, exit.Explains job w.setting.signals w.now t r
  /-- The same holds after the step, unless it has cancelled the scope itself. -/
  sparing : w'.setting.signals.isRaised job.scope.token = w.setting.signals.isRaised job.scope.token →
    ∀ r, returned? outcome = some r →
      ∃! exit : Exit, exit.Explains job w'.setting.signals w'.now t r

/-- What a run that has led to `w` has returned, or what it returns next. -/
structure Results (op : Operation S ι σ α) (job : Job ι) (setting : Setting S)
    (events : List (Event S)) (w : World S σ α) : Prop where
  /-- A run that has ended did so in one of its steps, and stays as it was then. -/
  ended : ∀ outcome, w.run.phase = .ended outcome → ∃ before after t,
    events = before ++ .step :: after ∧
      LastStep job (World.play op job setting before) (World.play op job setting (before ++ [.step])) t
        outcome ∧
      w.run = (World.play op job setting (before ++ [.step])).run ∧
      w.tries = (World.play op job setting (before ++ [.step])).tries
  /-- The end of the scope comes before anything else that could happen now. -/
  scopeFirst : (∀ o, w.run.phase ≠ .ended o) →
    ∀ reason, job.scope.EndedBy w.setting.signals w.now reason →
      (w.apply op job .step).run.phase = .ended (.failure (.scope reason))
  /-- The end of the budget comes before another try, also if that is due. -/
  budgetFirst : ∀ f due b, w.run.phase = .pausing f due →
    (∀ reason, ¬ job.scope.EndedBy w.setting.signals w.now reason) →
    job.budgetEnd = some b → b ≤ w.now →
      (w.apply op job .step).run.phase =
        .ended (.failure (.exhausted (w.now - job.started) w.run.attempt f))

theorem OnSchedule.lastStep {op : Operation S ι σ α} {job : Job ι} {w : World S σ α}
    (h : OnSchedule job w) (going : ∀ o, w.run.phase ≠ .ended o) {outcome : Outcome α}
    (ended : (w.step op job).run.phase = .ended outcome) :
    ∃ t, LastStep job w (w.step op job) t outcome := by
  obtain ⟨t, ht, ends⟩ := World.ends_of_step h going ended
  have later : OnSchedule job (w.step op job) := h.step
  have number := later.latest t ht
  have now : (w.step op job).now = w.now := by
    unfold World.step
    split <;> rfl
  exact ⟨t,
    { going, ended
      latest := ht
      counted := ⟨later.attempt.trans number.symm, number.symm⟩
      panicked := fun message hm => by
        subst hm
        cases ends with
        | panic _ he => exact he
      returned := fun r hr => ends.existsUnique rfl hr
      sparing := fun same r hr => by
        rw [now]
        exact ends.existsUnique (Scope.ended?_congr same w.now) hr }⟩

theorem lastStep_play (op : Operation S ι σ α) (job : Job ι) (setting : Setting S)
    (events : List (Event S)) {outcome : Outcome α}
    (ended : (World.play op job setting events).run.phase = .ended outcome) : ∃ before after t,
      events = before ++ .step :: after ∧
        LastStep job (World.play op job setting before) (World.play op job setting (before ++ [.step])) t
          outcome ∧
        (World.play op job setting events).run = (World.play op job setting (before ++ [.step])).run ∧
        (World.play op job setting events).tries =
          (World.play op job setting (before ++ [.step])).tries := by
  induction events using List.reverseRecOn with
  | nil => cases ended
  | append_singleton events e ih =>
    by_cases finished : ∃ o, (World.play op job setting events).run.phase = .ended o
    · obtain ⟨o, finished⟩ := finished
      obtain ⟨run, tries⟩ : ((World.play op job setting events).apply op job e).run =
          (World.play op job setting events).run ∧
          ((World.play op job setting events).apply op job e).tries =
            (World.play op job setting events).tries := World.apply_of_ended finished e
      rw [World.play_concat] at ended ⊢
      rw [run] at ended ⊢
      rw [tries]
      obtain ⟨before, after, t, he, last, run', tries'⟩ := ih ended
      exact ⟨before, after ++ [e], t, by rw [he, List.append_assoc, List.cons_append], last, run', tries'⟩
    · have going : ∀ o, (World.play op job setting events).run.phase ≠ .ended o :=
        fun o ho => finished ⟨o, ho⟩
      have last := ended
      rw [World.play_concat] at last
      obtain rfl := World.eq_step_of_ended going last
      obtain ⟨t, last⟩ := (onSchedule_play op job setting events).lastStep going last
      refine ⟨events, [], t, rfl, ?_, rfl, rfl⟩
      rw [World.play_concat]
      exact last

/-- **The results of retries.** Whatever the tries do and whatever happens around them, a
run that returns does so in exactly one of the four ways. -/
theorem play_results (op : Operation S ι σ α) (job : Job ι) (setting : Setting S)
    (events : List (Event S)) :
    Results op job setting events (World.play op job setting events) where
  ended outcome ended := lastStep_play op job setting events ended
  scopeFirst going reason hs := World.step_of_over going (Scope.ended?_eq_some_iff.2 hs)
  budgetFirst f due b hp open_ hb spent := by
    refine World.step_of_spent hp ?_ hb spent
    cases hs : job.scope.ended? (World.play op job setting events).setting.signals
        (World.play op job setting events).now with
    | none => rfl
    | some reason => exact absurd (Scope.ended?_eq_some_iff.1 hs) (open_ reason)

/-- A try is done at the very instant at which its scope ends, and the budget is spent. -/
example :
    let op : Operation Unit Unit (Scope × Activity Nat) Nat :=
      .scripted (fun _ _ => .sleep 5000000 (.finish (.value 7))) (fun _ _ s => s) (fun _ s => s)
    let job : Job Unit := ⟨(), ⟨⟨0, []⟩, some 5000000⟩, .new 5000000 0 0 0, [], 0⟩
    (World.play op job ⟨.empty, [], ()⟩ [.step, .pass 5000000, .step]).run.outcome? =
      some (.failure (.scope .deadlineExceeded)) := by
  decide +kernel

end Retry

end CallGuard
