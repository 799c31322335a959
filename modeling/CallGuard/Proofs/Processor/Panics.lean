/-
Panics stay within the work on their item. To a processor an operation that panics is the
operation that fails in its place (`Operation.tamed`): both lead every run to the same world,
with the same calls at the same instants, and the journal differs in the reports of panics
alone.
-/
import CallGuard.Proofs.Processor.Prompt

namespace CallGuard

variable {S ι σ α β γ : Type}

/-! ## The journal without its reports of panics -/

/-- Reports of panics. -/
def Entry.isPanic : Entry → Bool
  | .itemPanicked _ => true
  | _ => false

namespace Setting

/-- The setting, with no report of a panic in its journal. -/
def calm (w : Setting S) : Setting S := { w with journal := w.journal.filter (!·.isPanic) }

variable {w w' : Setting S}

theorem calm_calm (w : Setting S) : w.calm.calm = w.calm := by
  simp only [calm, List.filter_filter, Bool.and_self]

theorem signals_of_calm (h : w'.calm = w.calm) : w'.signals = w.signals :=
  congrArg (·.signals) h

theorem calm_log (w : Setting S) (entry : Entry) :
    (w.log entry).calm = if entry.isPanic then w.calm else w.calm.log entry := by
  cases entry <;> rfl

theorem calm_log_congr (h : w'.calm = w.calm) (entry : Entry) :
    (w'.log entry).calm = (w.log entry).calm := by
  rw [calm_log, calm_log, h]

theorem calm_update (h : w'.calm = w.calm) (signals : Signals) (f : S → S) :
    calm ⟨signals, w'.journal, f w'.site⟩ = calm ⟨signals, w.journal, f w.site⟩ :=
  congrArg (fun v : Setting S => Setting.mk signals v.journal (f v.site)) h

/-- Steps that agree up to reports of panics: neither can be made, or both come to the same. -/
theorem calm_cases {r' r : Option (Setting S × β)}
    (h : r'.map (Prod.map calm id) = r.map (Prod.map calm id)) : (r' = none ∧ r = none) ∨
      ∃ v' v b, r' = some (v', b) ∧ r = some (v, b) ∧ v'.calm = v.calm := by
  cases r' with
  | none => exact .inl ⟨rfl, Option.map_eq_none_iff.1 h.symm⟩
  | some x' =>
    obtain ⟨x, rfl, same⟩ := Option.map_eq_some_iff.1 h.symm
    obtain ⟨hw, hb⟩ := Prod.mk.inj same
    exact .inr ⟨x'.1, x.1, x.2, congrArg (fun b => some (x'.1, b)) hb.symm, rfl, hw.symm⟩

theorem calm_map {f : Setting S × β → γ × Setting S}
    (hf : ∀ {w' w : Setting S} (b : β), w'.calm = w.calm →
      (f (w', b)).map id calm = (f (w, b)).map id calm)
    {q r : Option (Setting S × β)} (h : q.map (Prod.map calm id) = r.map (Prod.map calm id)) :
    (q.map f).map (Prod.map id calm) = (r.map f).map (Prod.map id calm) := by
  rcases calm_cases h with ⟨rfl, rfl⟩ | ⟨v', v, b, rfl, rfl, hv⟩
  · rfl
  · exact congrArg some (hf b hv)

end Setting

/-- A panic as the failure that it counts as. -/
def Outcome.tamed : Outcome α → Outcome α
  | .panic message => .failure (.panicked (Processor.panicText message))
  | outcome => outcome

/-- The same note of an operation that fails where it would panic. -/
def Note.tamed : Note ι α → Note ι α
  | .begun request => .begun request
  | .ended outcome => .ended (outcome.map .tamed)

theorem Note.tamed_ofProgress (p : Progress σ (Outcome α)) :
    (Note.ofProgress (p.map id .tamed) : List (Note ι α)) = (Note.ofProgress p).map .tamed := by
  cases p <;> rfl

namespace Operation

open Setting (calm)

/-- The operation that fails where `op` panics, and otherwise does what `op` does. -/
def tamed (op : Operation S ι σ α) : Operation S ι σ α where
  start request n scope now w := (op.start request n scope now w).map id (.map id .tamed)
  resume now s w := (op.resume now s w).map (Prod.map id (.map id .tamed))
  drop := op.drop
  dues := op.dues

/-- Two operations that do the same in the same setting, reports of panics apart. -/
structure Alike (op' op : Operation S ι σ α) : Prop where
  start : ∀ request n scope now {w' w : Setting S}, w'.calm = w.calm →
    (op'.start request n scope now w').map calm id = (op.start request n scope now w).map calm id
  resume : ∀ now s {w' w : Setting S}, w'.calm = w.calm →
    (op'.resume now s w').map (Prod.map calm id) = (op.resume now s w).map (Prod.map calm id)
  drop : ∀ s {w' w : Setting S}, w'.calm = w.calm → (op'.drop s w').calm = (op.drop s w).calm

/-- An operation that does not look for reports of panics. -/
abbrev Unaware (op : Operation S ι σ α) : Prop := Alike op op

theorem scripted_unaware (behaviour : ι → Nat → Behaviour α) (noteStart : ι → Nat → S → S)
    (noteEnd : Outcome α → S → S) : (scripted behaviour noteStart noteEnd).Unaware := by
  have close (scope : Scope) {w' w : Setting S} (h : w'.calm = w.calm)
      (p : Progress (Activity α) (Outcome α)) :
      (scripted.close noteEnd scope w' p).map calm id = (scripted.close noteEnd scope w p).map calm id := by
    cases p with
    | waiting a => exact congrArg (·, _) h
    | finished outcome =>
      have signals := Setting.signals_of_calm h
      simp only [scripted.close, signals]
      exact congrArg (·, _) (Setting.calm_update h _ (noteEnd outcome))
  refine ⟨fun request n scope now w' w h => ?_, fun now s w' w h => ?_, fun s w' w h => h⟩
  · have signals := Setting.signals_of_calm h
    simp only [scripted, signals]
    exact close scope (Setting.calm_update h _ (noteStart request now)) _
  · have signals := Setting.signals_of_calm h
    simp only [scripted, signals, Option.map_map]
    congr 1
    funext r
    exact close s.1 (Setting.calm_update h r.1 id) r.2

theorem caught_tamed {w' w : Setting S} (h : w'.calm = w.calm) (p : Progress σ (Outcome α)) :
    (catching.caught (w', p.map id .tamed)).map calm id = (catching.caught (w, p)).map calm id := by
  cases p with
  | waiting s => exact congrArg (·, _) h
  | finished outcome => cases outcome <;> exact congrArg (·, _) h

/-- Once panics are caught, it makes no difference whether an operation panics or fails. -/
theorem Unaware.catching {op : Operation S ι σ α} (h : op.Unaware) :
    op.tamed.catching.Alike op.catching where
  start request n scope now w' w hw := by
    obtain ⟨hs, hp⟩ := Prod.mk.inj (h.start request n scope now hw)
    have same : (op.start request n scope now w').2 = (op.start request n scope now w).2 := hp
    show (catching.caught ((op.start request n scope now w').1,
      (op.start request n scope now w').2.map id .tamed)).map calm id = _
    rw [same]
    exact caught_tamed hs _
  resume now s w' w hw := by
    have hr := h.resume now s hw
    show (((op.resume now s w').map (Prod.map id (.map id .tamed))).map catching.caught).map _ =
      ((op.resume now s w).map catching.caught).map _
    rcases Setting.calm_cases hr with ⟨none', none⟩ | ⟨v', v, p, some', some, hv⟩
    · rw [none', none]
      rfl
    · rw [some', some]
      exact congrArg Option.some (caught_tamed hv p)
  drop := h.drop

end Operation

/-! ## The work on an item -/

section Alike

open Setting (calm)

variable {op' op : Operation S ι σ α} {w' w : Setting S}

namespace Race

theorem start_alike (alike : op'.Alike op) (h : w'.calm = w.calm) (request : ι) (n : Nat) (scope : Scope)
    (now : Nat) : (start op' request n scope now w').map calm id =
      (start op request n scope now w).map calm id := by
  unfold start
  rw [Setting.signals_of_calm h]
  cases scope.ended? w.signals now with
  | some reason => exact congrArg (·, _) h
  | none =>
    exact congrArg (Prod.map id (Progress.map id Verdict.completed)) (alike.start request n scope now h)

theorem resume_alike (alike : op'.Alike op) (h : w'.calm = w.calm) (scope : Scope) (now : Nat) (s : σ) :
    (resume op' scope now s w').map (Prod.map calm id) =
      (resume op scope now s w).map (Prod.map calm id) := by
  unfold resume
  rw [Setting.signals_of_calm h]
  cases scope.ended? w.signals now with
  | some reason => exact congrArg (fun v => some (v, _)) (alike.drop s h)
  | none =>
    have same := congrArg (Option.map (Prod.map id (Progress.map id Verdict.completed))) (alike.resume now s h)
    simp only [Option.map_map] at same ⊢
    exact same

end Race

namespace Retry.Run

theorem proceed_calm (job : Job ι) (now : Nat) (run : Run σ α) (h : w'.calm = w.calm)
    (p : Progress σ (Verdict α)) :
    (run.proceed job now (w', p)).map id calm = (run.proceed job now (w, p)).map id calm := by
  cases p with
  | waiting s => exact congrArg (_, ·) h
  | finished verdict =>
    cases verdict with
    | scopeEnded reason => exact congrArg (_, ·) h
    | completed outcome =>
      cases outcome with
      | value a | panic message => exact congrArg (_, ·) h
      | failure f =>
        simp only [proceed, settle]
        split
        · exact congrArg (_, ·) (Setting.calm_log_congr h _)
        · exact congrArg (_, ·) h

theorem step_alike (alike : op'.Alike op) (h : w'.calm = w.calm) (job : Job ι) (now : Nat)
    (run : Run σ α) : (run.step op' job now w').map (Prod.map id calm) =
      (run.step op job now w).map (Prod.map id calm) := by
  unfold step
  cases run.phase with
  | ready =>
    exact Setting.calm_map (q := some _) (r := some _) (fun p hw => proceed_calm job now _ hw p)
      (congrArg some (Race.start_alike alike h ..))
  | trying s =>
    exact Setting.calm_map (fun p hw => proceed_calm job now run hw p) (Race.resume_alike alike h ..)
  | pausing f due =>
    simp only [Setting.signals_of_calm h]
    cases job.scope.ended? w.signals now with
    | some reason => exact congrArg (fun v => some (_, v)) h
    | none =>
      dsimp only
      split
      · exact congrArg (fun v => some (_, v)) (Setting.calm_log_congr h _)
      · split
        · exact congrArg (fun v => some (_, v)) (Setting.calm_log_congr h _)
        · rfl
  | ended outcome => rfl

end Retry.Run

end Alike

namespace Processor

open Setting (calm)

variable {op : Operation S (Item ι) σ α} {w' w : Setting S}

namespace Effort

theorem proceed_calm (h : w'.calm = w.calm) (p : Progress σ (Verdict α)) :
    (proceed (w', p)).map id calm = (proceed (w, p)).map id calm := by
  cases p <;> exact congrArg (_, ·) h

theorem step_tamed (unaware : op.Unaware) (h : w'.calm = w.calm) (config : Config) (order : Order ι)
    (now : Nat) (effort : Effort σ α) : (effort.step op.tamed config order now w').map (Prod.map id calm) =
      (effort.step op config order now w).map (Prod.map id calm) := by
  have alike := unaware.catching
  cases effort with
  | ready =>
    exact Setting.calm_map (q := some _) (r := some _) (fun p hw => proceed_calm hw p)
      (congrArg some (Race.start_alike alike h ..))
  | trying s => exact Setting.calm_map (fun p hw => proceed_calm hw p) (Race.resume_alike alike h ..)
  | tried outcome => rfl
  | retrying policy run =>
    have same := congrArg (Option.map (Prod.map (Effort.retrying policy) id))
      (Retry.Run.step_alike alike h (job config policy order) now run)
    simp only [step, Option.map_map] at same ⊢
    exact same

end Effort

/-! ## The worker -/

theorem take_calm (p : Processor ι σ α) (drained : Option Nat) (now : Nat) (w : Setting S) :
    p.take drained now w.calm = (p.take drained now w).map (Prod.map id calm) := by
  unfold take
  cases p.input <;> rfl

theorem wake_calm (p : Processor ι σ α) (drained : Option Nat) (now : Nat) (w : Setting S) :
    p.wake drained now w.calm = (p.wake drained now w).map (Prod.map id calm) := by
  cases drained with
  | none =>
    simp only [wake, take_calm]
    split <;> rfl
  | some n =>
    simp only [wake, take_calm]
    cases p.take (some (n + 1)) now w <;> rfl

theorem deliver_calm (p : Processor ι σ α) (drained : Option Nat) (result : Result α) (w : Setting S) :
    p.deliver drained result w.calm = (p.deliver drained result w).map (Prod.map id calm) := by
  unfold deliver
  split
  · rfl
  · split <;> rfl

theorem work_tamed (unaware : op.Unaware) (h : w'.calm = w.calm) (p : Processor ι σ α)
    (drained : Option Nat) (order : Order ι) (effort : Effort σ α) (now : Nat) :
    (p.work op.tamed drained order effort now w').map (Prod.map id calm) =
      (p.work op drained order effort now w).map (Prod.map id calm) := by
  unfold work
  cases effort.outcome? with
  | some outcome => exact congrArg (fun v => some (_, v)) (Setting.calm_log_congr h _)
  | none =>
    have same := congrArg
      (Option.map (Prod.map (fun effort => p.assign (.working order effort) drained) id))
      (Effort.step_tamed unaware h p.config order now effort)
    simp only [Option.map_map] at same ⊢
    exact same

/-- **A step of the worker** is the same whether the operation panics or fails. -/
theorem workerStep_tamed (unaware : op.Unaware) (h : w'.calm = w.calm) (now : Nat) (p : Processor ι σ α) :
    (p.workerStep op.tamed now w').map (Prod.map id calm) =
      (p.workerStep op now w).map (Prod.map id calm) := by
  unfold workerStep
  cases p.worker with
  | none => rfl
  | some worker =>
    obtain ⟨task, drained⟩ := worker
    simp only [Option.bind_some]
    cases task with
    | starting => exact congrArg (fun v => some (_, v)) (Setting.calm_log_congr h _)
    | idle => rw [← wake_calm, ← wake_calm, h]
    | working order effort => exact work_tamed unaware h p drained order effort now
    | delivering result => rw [← deliver_calm, ← deliver_calm, h]
    | stopped => rfl

/-! ## The calls -/

section Notes

variable {ι : Type} {op : Operation S ι σ α} (scope : Scope) (now : Nat)

theorem startNotes_tamed (unaware : op.Unaware) (h : w'.calm = w.calm) (request : ι) (n : Nat) :
    Race.startNotes op.tamed request n scope now w' =
      (Race.startNotes op request n scope now w).map .tamed := by
  have same : (op.start request n scope now w').2 = (op.start request n scope now w).2 :=
    (Prod.mk.inj (unaware.start request n scope now h)).2
  unfold Race.startNotes
  rw [Setting.signals_of_calm h]
  cases scope.ended? w.signals now with
  | some reason => rfl
  | none =>
    simp only [Operation.tamed, Prod.map_snd, same, Note.tamed_ofProgress]
    rfl

theorem resumeNotes_tamed (unaware : op.Unaware) (h : w'.calm = w.calm) (s : σ) :
    Race.resumeNotes op.tamed scope now s w' = (Race.resumeNotes op scope now s w).map .tamed := by
  unfold Race.resumeNotes
  rw [Setting.signals_of_calm h]
  cases scope.ended? w.signals now with
  | some reason => rfl
  | none =>
    rcases Setting.calm_cases (unaware.resume now s h) with ⟨none', none⟩ | ⟨v', v, p, some', some, -⟩
    · simp only [Operation.tamed, none', none]
      rfl
    · simp only [Operation.tamed, some', some]
      exact Note.tamed_ofProgress p

end Notes

theorem notes_run_tamed {ι : Type} {op : Operation S ι σ α} (unaware : op.Unaware) (h : w'.calm = w.calm)
    (job : Retry.Job ι) (now : Nat) (run : Retry.Run σ α) :
    run.notes op.tamed job now w' = (run.notes op job now w).map .tamed := by
  unfold Retry.Run.notes
  cases run.phase with
  | ready => exact startNotes_tamed job.scope now unaware h job.request (run.attempt + 1)
  | trying s => exact resumeNotes_tamed job.scope now unaware h s
  | pausing f due | ended outcome => rfl

theorem Effort.notes_tamed (unaware : op.Unaware) (h : w'.calm = w.calm) (config : Config)
    (order : Order ι) (now : Nat) (effort : Effort σ α) :
    effort.notes op.tamed config order now w' = (effort.notes op config order now w).map .tamed := by
  cases effort with
  | ready => exact startNotes_tamed order.scope now unaware h order.item 1
  | trying s => exact resumeNotes_tamed order.scope now unaware h s
  | tried outcome => rfl
  | retrying policy run => exact notes_run_tamed unaware h (job config policy order) now run

theorem workNotes_tamed (unaware : op.Unaware) (h : w'.calm = w.calm) (now : Nat) (p : Processor ι σ α) :
    p.workNotes op.tamed now w' = (p.workNotes op now w).map .tamed := by
  unfold workNotes
  split
  · split
    · rfl
    · exact Effort.notes_tamed unaware h ..
  · rfl

/-- A call that may have ended by a panic, as one that failed. -/
def Attempt.tamed (t : Attempt ι α) : Attempt ι α :=
  { t with ended := t.ended.map (Prod.map id (.map .tamed)) }

/-! ## Runs -/

theorem submit_calm (p : Processor ι σ α) (id' : String) (payload : ι) (now : Nat) (w : Setting S) :
    p.submit id' payload now w.calm = (p.submit id' payload now w).map id (Prod.map id calm) := by
  unfold submit
  split
  · rfl
  · split <;> rfl

theorem continueStop_calm (p : Processor ι σ α) (w : Setting S) (stopping : Stopping) :
    p.continueStop w.calm stopping =
      (p.continueStop w stopping).map (Prod.map id (Prod.map id calm)) := by
  cases stopping with
  | nothing => rfl
  | worker | reporter =>
    simp only [continueStop]
    split <;> rfl

theorem beginStop_calm (p : Processor ι σ α) (w : Setting S) :
    p.beginStop w.calm = (p.beginStop w).map id (Prod.map id calm) := by
  unfold beginStop
  cases p.stage with
  | launched | released | dropped => rfl
  | fresh =>
    simp only [answerAllUnstarted]
    cases p.input <;> rfl

theorem reporterStep_calm (now : Nat) (p : Processor ι σ α) (w : Setting S) :
    p.reporterStep now w.calm = (p.reporterStep now w).map (Prod.map id calm) := by
  unfold reporterStep Reporter.step
  cases p.reporter with
  | none => rfl
  | some reporter =>
    simp only [Option.bind_some]
    cases reporter.phase with
    | fresh | finished => rfl
    | waiting counted since due =>
      have signals : w.calm.signals = w.signals := rfl
      simp only [signals]
      split
      · rfl
      · split <;> rfl

namespace World

variable {w' w : World S ι σ α}

/-- The world, with no report of a panic in its journal. -/
def calm (w : World S ι σ α) : World S ι σ α := { w with setting := w.setting.calm }

@[simp] theorem processor_calm (w : World S ι σ α) : w.calm.processor = w.processor := rfl

@[simp] theorem now_calm (w : World S ι σ α) : w.calm.now = w.now := rfl

theorem calm_proceedStop (w : World S ι σ α) (next : Stopping × Processor ι σ α × Setting S) :
    (w.proceedStop next).calm = w.calm.proceedStop (next.map id (.map id Setting.calm)) := by
  obtain ⟨stopping, p, setting⟩ := next
  cases stopping <;> rfl

theorem calm_stop (w : World S ι σ α) : w.stop.calm = w.calm.stop := by
  have same : w.processor.beginStop w.calm.setting =
      (w.processor.beginStop w.setting).map id (.map id Setting.calm) := beginStop_calm _ _
  rw [stop, stop, processor_calm, same, calm_proceedStop]
  rfl

theorem calm_awaitStop (w : World S ι σ α) : w.awaitStop.calm = w.calm.awaitStop := by
  have same (stopping : Stopping) : w.calm.processor.continueStop w.calm.setting stopping =
      (w.processor.continueStop w.setting stopping).map (.map id (.map id Setting.calm)) :=
    continueStop_calm _ _ _
  have stopping : w.calm.stopping = w.stopping := rfl
  unfold awaitStop
  rw [stopping]
  cases w.stopping with
  | none => rfl
  | some stopping =>
    simp only [Option.bind_some, same]
    cases w.processor.continueStop w.setting stopping with
    | none => rfl
    | some next => exact calm_proceedStop w next

/-- Nothing but the work looks at reports of panics or makes one. -/
theorem calm_apply (op' op : Operation S (Item ι) σ α) (w : World S ι σ α) {e : Event S ι}
    (he : e.isWork = false) : (w.calm.apply op' e).calm = (w.apply op e).calm := by
  have again {v' v : World S ι σ α} (h : v' = v.calm) : v'.calm = v.calm := by
    rw [h]
    exact congrArg (fun s => { v with setting := s }) v.setting.calm_calm
  cases e with
  | work => cases he
  | around setting => rfl
  | submit id' payload =>
    refine again ?_
    have same : w.processor.submit id' payload w.now w.calm.setting =
        (w.processor.submit id' payload w.now w.setting).map id (.map id Setting.calm) := submit_calm _ _ _ _ _
    simp only [apply, submit, processor_calm, now_calm, same]
    rfl
  | start =>
    refine again ?_
    simp only [apply, processor_calm]
    cases w.processor.start <;> rfl
  | stop => exact again (calm_stop w).symm
  | awaitStop => exact again (calm_awaitStop w).symm
  | read =>
    refine again ?_
    simp only [apply, read]
    by_cases claimed : w.processor.reader = .claimed
    · rw [if_pos claimed, if_pos (show w.calm.processor.reader = .claimed from claimed), processor_calm]
      cases w.processor.read <;> rfl
    · rw [if_neg claimed, if_neg (show ¬w.calm.processor.reader = .claimed from claimed)]
  | dropReader =>
    refine again ?_
    simp only [apply, dropReader]
    by_cases claimed : w.processor.reader = .claimed
    · rw [if_pos claimed, if_pos (show w.calm.processor.reader = .claimed from claimed)]
      rfl
    · rw [if_neg claimed, if_neg (show ¬w.calm.processor.reader = .claimed from claimed)]
  | report =>
    refine again ?_
    have same : w.processor.reporterStep w.now w.calm.setting =
        (w.processor.reporterStep w.now w.setting).map (.map id Setting.calm) := reporterStep_calm _ _ _
    simp only [apply, processor_calm, now_calm, same]
    cases w.processor.reporterStep w.now w.setting <;> rfl
  | abort => exact again rfl
  | giveUpStop => exact again (v := w.giveUpStop) rfl
  | results => exact again (v := { w with processor := w.processor.results.2 }) rfl
  | pass d => exact again (v := { w with now := w.now + d }) rfl

theorem exists_of_calm (h : w'.calm = w.calm) :
    ∃ s, w' = { w with setting := s } ∧ s.calm = w.setting.calm := by
  refine ⟨w'.setting, ?_, congrArg (·.setting) h⟩
  exact congrArg (fun v : World S ι σ α => { v with setting := w'.setting }) h

/-- **An event** leads to the same whether the operation panics or fails. -/
theorem apply_tamed {op : Operation S (Item ι) σ α} (unaware : op.Unaware) (h : w'.calm = w.calm)
    (e : Event S ι) : (w'.apply op.tamed e).calm = (w.apply op e).calm := by
  cases he : e.isWork with
  | false => rw [← calm_apply op.tamed op.tamed w' he, h, calm_apply op.tamed op w he]
  | true =>
    cases Event.eq_work he
    obtain ⟨s, rfl, hs⟩ := exists_of_calm h
    have step := workerStep_tamed unaware hs w.now w.processor
    simp only [apply, work]
    cases tamed : w.processor.workerStep op.tamed w.now s with
    | none =>
      rw [tamed] at step
      rw [Option.map_eq_none_iff.1 step.symm]
      exact h
    | some r =>
      rw [tamed] at step
      obtain ⟨⟨p, t⟩, wild, same⟩ := Option.map_eq_some_iff.1 step.symm
      obtain ⟨hp, ht⟩ := Prod.mk.inj same
      obtain rfl : p = r.1 := hp
      rw [wild]
      have after := congrArg (fun t : Setting S =>
        { w with processor := r.1, setting := t, books := w.books.watch w.processor r.1 }) ht.symm
      exact after

/-- **Panics stay within the work on their item.** -/
theorem calm_play {op : Operation S (Item ι) σ α} (unaware : op.Unaware) (config : Config)
    (setting : Setting S) (events : List (Event S ι)) :
    (play op.tamed config setting events).calm = (play op config setting events).calm := by
  induction events using List.reverseRecOn with
  | nil => rfl
  | append_singleton events e ih =>
    rw [play_concat, play_concat]
    exact apply_tamed unaware ih e

theorem notes_tamed {op : Operation S (Item ι) σ α} (unaware : op.Unaware) (h : w'.calm = w.calm)
    (e : Event S ι) : w'.notes op.tamed e = (w.notes op e).map .tamed := by
  cases he : e.isWork with
  | false => cases e <;> first | rfl | cases he
  | true =>
    cases Event.eq_work he
    obtain ⟨s, rfl, hs⟩ := exists_of_calm h
    have step := congrArg Option.isSome (workerStep_tamed unaware hs w.now w.processor)
    simp only [Option.isSome_map] at step
    rw [notes_work, notes_work]
    dsimp only
    rw [workNotes_tamed unaware hs]
    cases tamed : w.processor.workerStep op.tamed w.now s <;>
      cases wild : w.processor.workerStep op w.now w.setting <;>
      first | rfl | (rw [tamed, wild] at step; cases step)

theorem enter_tamed (h : w'.calm = w.calm) (attempts : List (Attempt ι α)) (note : Note (Item ι) α) :
    w'.enter (attempts.map .tamed) note.tamed = (w.enter attempts note).map .tamed := by
  obtain ⟨s, rfl, -⟩ := exists_of_calm h
  cases note with
  | begun item => rfl
  | ended outcome =>
    cases attempts with
    | nil => rfl
    | cons t rest =>
      simp only [enter, Note.tamed, List.map_cons, Attempt.close, Attempt.tamed]
      cases t.ended <;> rfl

/-- **The calls** are the same, at the same instants. -/
theorem attempts_tamed {op : Operation S (Item ι) σ α} (unaware : op.Unaware) (config : Config)
    (setting : Setting S) (events : List (Event S ι)) :
    attempts op.tamed config setting events = (attempts op config setting events).map .tamed := by
  induction events using List.reverseRecOn with
  | nil => rfl
  | append_singleton events e ih =>
    have same := calm_play unaware config setting events
    rw [attempts_concat, attempts_concat, notes_tamed unaware same, ih]
    generalize (play op config setting events).notes op e = notes
    generalize attempts op config setting events = attempts
    induction notes generalizing attempts with
    | nil => rfl
    | cons note notes ih' =>
      rw [List.map_cons, List.foldl_cons, enter_tamed same]
      exact ih' _

theorem mayPass_tamed {op : Operation S (Item ι) σ α} (unaware : op.Unaware) (h : w'.calm = w.calm)
    (instant : Nat) : w'.MayPass op.tamed instant ↔ w.MayPass op instant := by
  obtain ⟨s, rfl, hs⟩ := exists_of_calm h
  have signals : s.signals = w.setting.signals := Setting.signals_of_calm hs
  have worker : w.processor.workerStep op.tamed w.now s = none ↔
      w.processor.workerStep op w.now w.setting = none := by
    rw [← Option.map_eq_none_iff, workerStep_tamed unaware hs, Option.map_eq_none_iff]
  have calling : Calling w.processor s w.now ↔ Calling w.processor w.setting w.now := by
    simp only [Calling, signals]
  have reporter : w.processor.reporterStep w.now s = none ↔
      w.processor.reporterStep w.now w.setting = none := by
    rw [← Option.map_eq_none_iff, ← reporterStep_calm, hs, reporterStep_calm, Option.map_eq_none_iff]
  have stopping : w.stopping.bind (w.processor.continueStop s) = none ↔
      w.stopping.bind (w.processor.continueStop w.setting) = none := by
    cases w.stopping with
    | none => exact Iff.rfl
    | some stopping =>
      simp only [Option.bind_some]
      rw [← Option.map_eq_none_iff, ← continueStop_calm, hs, continueStop_calm, Option.map_eq_none_iff]
  exact
    ⟨fun may => ⟨may.worker.imp worker.1 calling.1, reporter.1 may.reporter, stopping.1 may.stopping, may.due⟩,
      fun may => ⟨may.worker.imp worker.2 calling.2, reporter.2 may.reporter, stopping.2 may.stopping, may.due⟩⟩

theorem prompt_tamed {op : Operation S (Item ι) σ α} (unaware : op.Unaware) {events : List (Event S ι)}
    (h : w'.calm = w.calm) : w'.Prompt op.tamed events ↔ w.Prompt op events := by
  induction events generalizing w' w with
  | nil => exact Iff.rfl
  | cons e events ih =>
    refine and_congr ?_ (ih (apply_tamed unaware h e))
    cases e with
    | pass d =>
      have now : w'.now = w.now := congrArg (·.now) h
      simp only [Allows, now, mayPass_tamed unaware h]
    | _ =>
      have signals : w'.setting.signals = w.setting.signals :=
        Setting.signals_of_calm (congrArg (·.setting) h)
      simp only [Allows, signals]

end World

end Processor

end CallGuard
