/-
What a closing processor does at an instant. The worker comes to rest after a few steps
(`Effort.rank`, `Processor.rank`): it is gone, at a call, or in a pause. The reporter comes to
rest too, once it has made up for the reports it owes (`Reporter.rank`).
-/
import CallGuard.Proofs.Processor.Prompt
import CallGuard.Proofs.Retry.Termination

namespace CallGuard

theorem Instant.lt_pauseEnd {t d : Nat} (h : 0 < d) : t < pauseEnd t d := by
  have longest : 0 < Span.longestPause := by decide
  unfold pauseEnd
  omega

namespace Retry.Run

variable {S ι σ α : Type}

theorem proceed_cases (run : Run σ α) (job : Job ι) (now : Nat) (p : Setting S × Progress σ (Verdict α)) :
    (run.proceed job now p).1.pause = run.pause ∧
      ((∃ s, (run.proceed job now p).1.phase = .trying s) ∨
        (∃ f, (run.proceed job now p).1.phase = .pausing f (Instant.pauseEnd now run.pause)) ∨
        ∃ outcome, (run.proceed job now p).1.phase = .ended outcome) := by
  obtain ⟨w, p⟩ := p
  cases p with
  | waiting s => exact ⟨rfl, .inl ⟨s, rfl⟩⟩
  | finished verdict =>
    simp only [proceed]
    rcases settle_cases job now run w verdict with ⟨f, -, -, hr⟩ | ⟨outcome, hr⟩
    · rw [hr]
      exact ⟨rfl, .inr (.inl ⟨f, rfl⟩)⟩
    · rw [hr]
      exact ⟨rfl, .inr (.inr ⟨outcome, rfl⟩)⟩

end Retry.Run

namespace Processor

variable {S ι σ α : Type}

/-! ## The worker -/

namespace Effort

variable {op : Operation S (Item ι) σ α} {config : Config} {order : Order ι} {now : Nat}
  {effort effort' : Effort σ α} {w w' : Setting S}

theorem proceed_cases (p : Setting S × Progress σ (Verdict α)) :
    (∃ s, (proceed p).1 = .trying s) ∨ ∃ outcome, (proceed p).1 = .tried outcome := by
  obtain ⟨w, p⟩ := p
  cases p with
  | waiting s => exact .inl ⟨s, rfl⟩
  | finished verdict => exact .inr ⟨_, rfl⟩

/-- The pauses between the tries do not stay zero. -/
def Paced : Effort σ α → Prop
  | .retrying policy run => policy.Waits ∧ policy.Grows run.pause
  | .ready | .trying _ | .tried _ => True

theorem paced_initial (waits : ∀ policy ∈ config.policy, policy.Waits) :
    (initial (σ := σ) (α := α) config.policy).Paced := by
  cases hp : config.policy with
  | none => trivial
  | some policy => exact ⟨waits policy hp, waits policy hp⟩

theorem Paced.step (h : effort.Paced) (hs : effort.step op config order now w = some (effort', w')) :
    effort'.Paced := by
  have proceeded (p : Setting S × Progress σ (Verdict α)) : (proceed p).1.Paced := by
    rcases proceed_cases p with ⟨s, hp⟩ | ⟨outcome, hp⟩ <;> rw [hp] <;> trivial
  cases effort with
  | ready =>
    have came := proceeded (Race.start op.catching order.item 1 order.scope now w)
    rw [Option.some.inj hs] at came
    exact came
  | trying s =>
    obtain ⟨p, -, hs⟩ := Option.map_eq_some_iff.1 hs
    have came := proceeded p
    rw [hs] at came
    exact came
  | tried outcome => cases hs
  | retrying policy run =>
    obtain ⟨waits, grows⟩ := h
    obtain ⟨⟨run', w''⟩, hr, hs⟩ := Option.map_eq_some_iff.1 hs
    cases hs
    refine ⟨waits, ?_⟩
    cases Retry.Stepped.of_step hr with
    | began _ _ =>
      rw [(Retry.Run.proceed_cases _ _ _ _).1]
      exact grows
    | resumed _ _ =>
      rw [(Retry.Run.proceed_cases _ _ _ _).1]
      exact grows
    | cut _ _ | exhausted _ _ _ _ => exact grows
    | renewed _ _ _ _ => exact .inl (grows.next_pos waits)

/-- How far the work on an item is from its rest, at an instant. -/
def rank (now : Nat) : Effort σ α → Nat
  | .tried _ => 3
  | .trying _ => 4
  | .ready => 5
  | .retrying _ run =>
    match run.phase with
    | .ended _ => 3
    | .trying _ => 4
    | .pausing _ due => if due ≤ now then 6 else 4
    | .ready => if 0 < run.pause then 5 else 7

theorem rank_initial (now : Nat) (policy : Option Retry.Policy) :
    (initial (σ := σ) (α := α) policy).rank now ≤ 7 := by
  cases policy with
  | none => exact Nat.le_of_ble_eq_true rfl
  | some policy =>
    simp only [initial, Retry.Run.initial, rank]
    split <;> decide

theorem rank_of_outcome? {outcome : Outcome α} (h : effort.outcome? = some outcome) :
    effort.rank now = 3 := by
  cases effort with
  | ready | trying s => cases h
  | tried outcome => rfl
  | retrying policy run => simp only [rank, Retry.Run.phase_of_outcome? h]

theorem lt_rank (h : effort.outcome? = none) : 3 < effort.rank now := by
  cases effort with
  | tried outcome => cases h
  | ready => exact (by decide : 3 < 5)
  | trying s => exact (by decide : 3 < 4)
  | retrying policy run =>
    simp only [rank]
    cases hp : run.phase with
    | ended outcome => simp only [outcome?, Retry.Run.outcome?, hp, reduceCtorEq] at h
    | trying s => exact (by decide : 3 < 4)
    | pausing f due =>
      simp only
      split <;> decide
    | ready =>
      simp only
      split <;> decide

theorem rank_proceed_lt {job : Retry.Job ι} {policy : Retry.Policy} {run run' : Retry.Run σ α}
    (pause : run'.pause = run.pause) (ready : run.phase = .ready) (p : Setting S × Progress σ (Verdict α)) :
    rank now (.retrying policy (run'.proceed job now p).1) < rank now (.retrying policy run) := by
  have begun : rank now (.retrying policy run) = if 0 < run.pause then 5 else 7 := by simp only [rank, ready]
  rw [begun]
  rcases (run'.proceed_cases job now p).2 with ⟨s, hp⟩ | ⟨f, hp⟩ | ⟨outcome, hp⟩
  · simp only [rank, hp]
    split <;> decide
  · simp only [rank, hp, pause]
    by_cases long : 0 < run.pause
    · have later : now < Instant.pauseEnd now run.pause := Instant.lt_pauseEnd long
      rw [if_pos long, if_neg (Nat.not_le_of_lt later)]
      decide
    · rw [if_neg long]
      split <;> decide
  · simp only [rank, hp]
    split <;> decide

/-- Every step takes the work nearer to its rest, but for those of a call within its scope. -/
theorem rank_lt (hs : effort.step op config order now w = some (effort', w')) (paced : effort.Paced)
    (going : effort.outcome? = none)
    (lapsed : effort.stance = .calling → order.scope.ended? w.signals now ≠ none) :
    effort'.rank now < effort.rank now := by
  cases ended : order.scope.ended? w.signals now with
  | some reason =>
    obtain ⟨effort'', w'', stepped, came, -⟩ := step_of_ended op config ended going
    rw [hs] at stepped
    cases stepped
    rw [rank_of_outcome? came]
    exact lt_rank going
  | none =>
    cases effort with
    | ready =>
      have came := proceed_cases (Race.start op.catching order.item 1 order.scope now w)
      rw [Option.some.inj hs] at came
      rcases came with ⟨s, rfl⟩ | ⟨outcome, rfl⟩
      · exact (by decide : 4 < 5)
      · exact (by decide : 3 < 5)
    | trying s => exact absurd ended (lapsed rfl)
    | tried outcome => cases going
    | retrying policy run =>
      obtain ⟨⟨run', w''⟩, hr, hs⟩ := Option.map_eq_some_iff.1 hs
      cases hs
      cases Retry.Stepped.of_step hr with
      | began hp _ =>
        have counted : (run.counted now).pause = run.pause := rfl
        exact rank_proceed_lt counted hp _
      | resumed hp _ => exact absurd ended (lapsed (by simp only [stance, hp, Stance.ofPhase]))
      | cut hp _ | exhausted hp _ _ _ =>
        simp only [rank, hp]
        split <;> decide
      | renewed hp _ _ due =>
        have next := paced.2.next_pos paced.1
        have policy : (job config policy order).policy = policy := rfl
        simp only [rank, hp, policy, if_pos next, if_pos due]
        decide

end Effort

section

variable {op : Operation S (Item ι) σ α} {now : Nat} {p p' : Processor ι σ α} {s s' : Setting S}

/-- The pauses in the work on an item do not stay zero. -/
def Paced (p : Processor ι σ α) : Prop :=
  ∀ order effort, p.task? = some (.working order effort) → effort.Paced

theorem Paced.worked (h : Paced p) (hw : Worked op now p s p' s')
    (waits : ∀ policy ∈ p.config.policy, policy.Waits) : Paced p' := by
  intro order effort ht
  cases hw with
  | took _ _ _ =>
    cases ht
    exact Effort.paced_initial waits
  | tried worker _ hs =>
    cases ht
    exact (h _ _ (task?_of_worker worker)).step hs
  | began _ | turned _ _ | halted _ _ | concluded _ _ | delivered _ _ | discarded _ _ _ => cases ht

/-- How far a worker is from where it next looks for an item, or from its rest on the way. -/
def Task.rank (now : Nat) : Task ι σ α → Nat
  | .starting | .delivering _ => 2
  | .idle => 1
  | .working _ effort => effort.rank now
  | .stopped => 0

/-- How far the worker of a closing processor is from its rest, at an instant. -/
def rank (now : Nat) (p : Processor ι σ α) : Nat :=
  match p.worker with
  | none => 0
  | some ⟨task, drained⟩ => task.rank now + 8 * p.input.length + if drained.isSome then 0 else 1

theorem Worked.rank_lt (hw : Worked op now p s p' s') (closing : p.closing = true) (paced : Paced p)
    (lapsed : ¬ Calling p s now) : p'.rank now < p.rank now := by
  cases hw with
  | began worker | delivered worker _ | discarded worker _ _ =>
    simp only [rank, worker, assign, count, Task.rank]
    omega
  | turned worker _ | halted worker _ =>
    simp only [rank, worker, assign, Task.rank, Option.isSome_none, Option.isSome_some,
      Bool.false_eq_true, if_true, if_false]
    omega
  | @took drained item input worker hi opened =>
    have turned : drained.isSome = true := by
      cases drained with
      | none => exact absurd (closing.symm.trans (opened rfl)) Bool.false_ne_true.symm
      | some n => rfl
    have first := Effort.rank_initial (σ := σ) (α := α) now p.config.policy
    simp only [rank, worker, assign, Task.rank, hi, List.length_cons, turned, Option.isSome_map, if_true]
    omega
  | tried worker going hs =>
    have ht := task?_of_worker worker
    have nearer := Effort.rank_lt hs (paced _ _ ht) going fun calling ended => lapsed ⟨_, _, ht, calling, ended⟩
    simp only [rank, worker, assign, Task.rank]
    omega
  | concluded worker came =>
    simp only [rank, worker, conclude, count, assign, Task.rank, Effort.rank_of_outcome? came]
    omega

theorem Effort.step_eq_none_congr {config : Config} {order : Order ι} {effort : Effort σ α}
    (same : s'.signals = s.signals) (h : effort.step op config order now s = none)
    (going : effort.outcome? = none) :
    effort.stance = .calling ∨ effort.step op config order now s' = none := by
  cases effort with
  | ready => cases h
  | trying state => exact .inl rfl
  | tried outcome => cases going
  | retrying policy run =>
    cases hp : run.phase with
    | ready => simp only [step, Retry.Run.step, hp, Option.map_some, reduceCtorEq] at h
    | trying state => exact .inl (by simp only [stance, hp, Stance.ofPhase])
    | ended outcome => simp only [outcome?, Retry.Run.outcome?, hp, reduceCtorEq] at going
    | pausing f due =>
      refine .inr ?_
      simp only [step, Retry.Run.step, hp, Option.map_eq_none_iff, same] at h ⊢
      split at h
      · cases h
      · split at h
        · cases h
        · rename_i budget
          rw [if_neg budget]
          split at h
          · cases h
          · rename_i due
            rw [if_neg due]

theorem rests_congr (closing : p.closing = true) (same : s'.signals = s.signals)
    (reporter : Option Reporter) (h : p.workerStep op now s = none ∨ Calling p s now) :
    ({ p with reporter := reporter } : Processor ι σ α).workerStep op now s' = none ∨
      Calling { p with reporter := reporter } s' now := by
  rcases h with idle | ⟨order, effort, ht, calling, ended⟩
  · rcases waits_of_closing closing idle with stopped | ⟨order, effort, drained, hw, going, waits⟩
    · left
      exact workerStep_of_all_isStopped (p := { p with reporter := reporter }) stopped op now s'
    · rcases Effort.step_eq_none_congr same waits going with calling | waits'
      · have ended := (Effort.waits_of_step_eq_none waits going).1
        exact .inr ⟨order, effort, task?_of_worker hw, calling, same ▸ ended⟩
      · refine .inl ?_
        simp only [workerStep, hw, Option.bind_some, work, going, waits', Option.map_none]
  · exact .inr ⟨order, effort, ht, calling, same ▸ ended⟩

end

/-! ## The reporter -/

namespace Reporter

variable {now depth : Nat} {counters : Counters} {r r' : Reporter} {s s' : Setting S}

/-- How far a reporter is from its rest, at an instant. It makes up for the reports that it
owes one by one. -/
def rank (now : Nat) (r : Reporter) : Nat :=
  match r.phase with
  | .fresh => 3
  | .waiting _ _ due => 1 + (now + 1 - due)
  | .finished => 0

theorem rank_lt (pos : 0 < r.interval) (h : r.step now counters depth s = some (r', s')) :
    r'.interval = r.interval ∧ r'.scope = r.scope ∧ r'.rank now < r.rank now := by
  unfold step at h
  split at h
  · rename_i hp
    cases h
    refine ⟨rfl, rfl, ?_⟩
    simp only [rank, hp, if_neg (Nat.ne_of_gt pos)]
    omega
  · rename_i counted since due hp
    split at h
    · cases h
      refine ⟨rfl, rfl, ?_⟩
      simp only [rank, hp]
      omega
    · split at h
      · rename_i reached
        have later : due < Instant.pauseEnd due r.interval := Instant.lt_pauseEnd pos
        cases h
        refine ⟨rfl, rfl, ?_⟩
        simp only [rank, hp]
        omega
      · cases h
  · cases h

theorem isFinished_of_ended (ended : (r.scope.ended? s.signals now).isSome = true)
    (h : r.step now counters depth s = none) : r.isFinished = true := by
  unfold step at h
  split at h
  · cases h
  · rw [if_pos ended] at h
    cases h
  · rename_i hp
    simp only [isFinished, hp]

end Reporter

/-- The reporter is the processor's own. -/
def Attended (p : Processor ι σ α) : Prop :=
  ∀ r, p.reporter = some r → r.scope = p.reporterScope ∧ 0 < r.interval

theorem Attended.isFinished {p : Processor ι σ α} (own : Attended p) {now : Nat} {s : Setting S}
    (raised : s.signals.isRaised p.reporterScope.token = true) (rests : p.reporterStep now s = none) :
    p.reporter.all (·.isFinished) = true := by
  cases hr : p.reporter with
  | none => rfl
  | some r =>
    simp only [reporterStep, hr, Option.bind_some, Option.map_eq_none_iff] at rests
    have ended : r.scope.ended? s.signals now = some .cancelled := by
      rw [(own r hr).1, Scope.ended?, if_pos raised]
    exact Reporter.isFinished_of_ended (by rw [ended]; rfl) rests

namespace World

variable {op : Operation S (Item ι) σ α} {config : Config} {setting : Setting S} {w : World S ι σ α}
  {e : Event S ι}

theorem paced_play (op : Operation S (Item ι) σ α) (setting : Setting S)
    (waits : ∀ policy ∈ config.policy, policy.Waits) (events : List (Event S ι)) :
    Paced (play op config setting events).processor := by
  induction events using List.reverseRecOn with
  | nil => exact nofun
  | append_singleton events e ih =>
    rw [play_concat]
    cases he : e.isWork with
    | true =>
      cases Event.eq_work he
      simp only [apply, work]
      split
      · rename_i hs
        exact ih.worked (.of_workerStep hs) (by rw [config_play]; exact waits)
      · exact ih
    | false =>
      intro order effort ht
      rcases (worker_apply op (play op config setting events) he).2 with same | ⟨-, new⟩
      · rw [task?, same] at ht
        exact ih order effort ht
      · rw [task?, new] at ht
        cases ht

/-- The worker of a closing processor comes to rest. -/
theorem exists_rest (op : Operation S (Item ι) σ α) (setting : Setting S)
    (waits : ∀ policy ∈ config.policy, policy.Waits) {events : List (Event S ι)}
    (closing : (play op config setting events).processor.closing = true) :
    ∃ k, let w := play op config setting (events ++ List.replicate k .work)
      w.processor.workerStep op w.now w.setting = none ∨ Calling w.processor w.setting w.now := by
  -- By induction on how far it is from there.
  induction rank : (play op config setting events).processor.rank (play op config setting events).now
    using Nat.strong_induction_on generalizing events with
  | _ rank ih =>
  subst rank
  by_cases lapsed : Calling (play op config setting events).processor (play op config setting events).setting
      (play op config setting events).now
  · exact ⟨0, by rw [List.replicate_zero, List.append_nil]; exact .inr lapsed⟩
  · cases hs : (play op config setting events).processor.workerStep op (play op config setting events).now
        (play op config setting events).setting with
    | none => exact ⟨0, by rw [List.replicate_zero, List.append_nil]; exact .inl hs⟩
    | some r =>
      obtain ⟨p, s⟩ := r
      have nearer := (Worked.of_workerStep hs).rank_lt closing (paced_play op setting waits events) lapsed
      have next : play op config setting (events ++ [.work]) = { play op config setting events with
          processor := p, setting := s, books := (play op config setting events).books.watch
            (play op config setting events).processor p } := by
        rw [play_concat, apply, work, hs]
      have still : (play op config setting (events ++ [.work])).processor.closing = true := by
        rw [play_concat, (steady_apply _).2, closing, Bool.true_or]
      obtain ⟨k, rests⟩ := ih _ nearer still (by rw [next])
      refine ⟨k + 1, ?_⟩
      rw [List.replicate_succ, ← List.singleton_append, ← List.append_assoc]
      exact rests

/-- Only a start and the reporter's own steps change the reporter. -/
theorem reporter_apply (op : Operation S (Item ι) σ α) (w : World S ι σ α) (e : Event S ι) :
    (w.apply op e).processor.reporterScope = w.processor.reporterScope ∧
      ((w.apply op e).processor.reporter = w.processor.reporter ∨
        e = .start ∧ (w.apply op e).processor.reporter =
          w.processor.config.metricsInterval.map (.new · w.processor.reporterScope) ∨
        e = .report ∧ ∃ r r' s, w.processor.reporter = some r ∧
          r.step w.now w.processor.counters w.processor.depth w.setting = some (r', s) ∧
          (w.apply op e).processor.reporter = some r') := by
  have m := Happened.of_apply op w e
  generalize w.apply op e = w' at m ⊢
  cases m with
  | @reported r r' s hr stepped => exact ⟨rfl, .inr (.inr ⟨rfl, r, r', s, hr, stepped, rfl⟩)⟩
  | started _ => exact ⟨rfl, .inr (.inl ⟨rfl, rfl⟩)⟩
  | stopped =>
    rw [processor_stop]
    cases hs : w.processor.stage with
    | fresh =>
      obtain ⟨stopping, s', he, -⟩ := beginStop_fresh hs w.setting
      obtain ⟨output, counters, hf⟩ :=
        foldl_answerUnstarted w.processor.input { w.processor with closing := true }
      rw [he, hf]
      exact ⟨rfl, .inl rfl⟩
    | launched =>
      rw [beginStop_launched hs]
      exact ⟨rfl, .inl rfl⟩
    | released | dropped =>
      obtain ⟨stopping, s', he, -⟩ := beginStop_later (p := w.processor) (by simp [hs]) w.setting
      rw [he]
      exact ⟨rfl, .inl rfl⟩
  | proceeded _ hn =>
    obtain ⟨attended, hp⟩ := processor_of_continueStop hn
    rw [processor_proceedStop, hp]
    exact ⟨rfl, .inl rfl⟩
  | worked worked _ => cases worked <;> exact ⟨rfl, .inl rfl⟩
  | ignored _ | admitted _ _ | refused _ | gaveUp | aborted | claimed _ | read _ _ | unread _
  | passed d | around setting => exact ⟨rfl, .inl rfl⟩

theorem attended_play (op : Operation S (Item ι) σ α) (config : Config) (setting : Setting S)
    (events : List (Event S ι)) : Attended (play op config setting events).processor := by
  induction events using List.reverseRecOn with
  | nil => exact nofun
  | append_singleton events e ih =>
    rw [play_concat]
    intro r hr
    obtain ⟨scope, same | ⟨-, new⟩ | ⟨-, r₀, r', s, old, stepped, now⟩⟩ :=
      reporter_apply op (play op config setting events) e
    · rw [scope]
      exact ih r (same ▸ hr)
    · rw [new, config_play] at hr
      obtain ⟨interval, hi, rfl⟩ := Option.map_eq_some_iff.1 hr
      exact ⟨scope.symm, config.metricsInterval_pos interval hi⟩
    · obtain ⟨own, pos⟩ := ih r₀ old
      obtain ⟨interval, same, -⟩ := Reporter.rank_lt pos stepped
      rw [now] at hr
      cases hr
      exact ⟨by rw [same, own, scope], by rw [interval]; exact pos⟩

/-- The reporter comes to rest, and leaves all else as it is. -/
theorem exists_reported (op : Operation S (Item ι) σ α) (config : Config) (setting : Setting S)
    (events : List (Event S ι)) : ∃ k reporter s,
      play op config setting (events ++ List.replicate k .report) = { play op config setting events with
        processor := { (play op config setting events).processor with reporter := reporter }, setting := s } ∧
      s.signals = (play op config setting events).setting.signals ∧
      ({ (play op config setting events).processor with reporter := reporter } : Processor ι σ α).reporterStep
        (play op config setting events).now s = none := by
  -- By induction on how far it is from there.
  induction rank : (play op config setting events).processor.reporter.elim 0
      (·.rank (play op config setting events).now) using Nat.strong_induction_on generalizing events with
  | _ rank ih =>
  subst rank
  have own := attended_play op config setting events
  cases hs : (play op config setting events).processor.reporterStep (play op config setting events).now
      (play op config setting events).setting with
  | none =>
    refine ⟨0, _, _, ?_, rfl, hs⟩
    rw [List.replicate_zero, List.append_nil]
  | some next =>
    obtain ⟨p, s⟩ := next
    have next : play op config setting (events ++ [.report]) =
        { play op config setting events with processor := p, setting := s } := by
      rw [play_concat, apply, hs]
    obtain ⟨r, r', hr, stepped, rfl⟩ := reporterStep_eq_some hs
    have signals := Reporter.signals_step stepped
    obtain ⟨-, -, nearer⟩ := Reporter.rank_lt (own r hr).2 stepped
    obtain ⟨k, reporter, s', reached, same, rests⟩ := ih (r'.rank (play op config setting events).now)
      (by rw [hr, Option.elim_some]; exact nearer) (events ++ [.report]) (by rw [next]; rfl)
    rw [next] at reached same rests
    refine ⟨k + 1, reporter, s', ?_, same.trans signals, rests⟩
    rw [List.replicate_succ, ← List.singleton_append, ← List.append_assoc]
    exact reached

end World

end Processor

end CallGuard
