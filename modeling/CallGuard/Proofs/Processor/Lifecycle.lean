/-
The life of a processor: when it closes, and what a stop has brought about
when it returns. A stop that was waited to its end, with none given up before,
leaves a processor that is spent: nothing waits, the worker is gone, and it
stays so whatever happens later.
-/
import CallGuard.Proofs.Processor.Events

namespace CallGuard.Processor

variable {S ι σ α : Type}

/-- Answering items without a worker touches only the output queue and the
counters. -/
theorem foldl_answerUnstarted (items : List (Item ι)) (p : Processor ι σ α) :
    ∃ output counters, items.foldl answerUnstarted p =
      { p with output := output, counters := counters } := by
  induction items generalizing p with
  | nil => exact ⟨p.output, p.counters, rfl⟩
  | cons item items ih =>
    obtain ⟨output, counters, h⟩ := ih (p.answerUnstarted item)
    refine ⟨output, counters, ?_⟩
    rw [List.foldl_cons, h]
    unfold answerUnstarted
    simp only
    split <;> rfl

theorem Worked.steady {op : Operation S (Item ι) σ α} {now} {p p' : Processor ι σ α} {s s' : Setting S}
    (h : Worked op now p s p' s') :
    p'.config = p.config ∧ p'.stage = p.stage ∧ p'.closing = p.closing ∧ p'.reader = p.reader := by
  cases h <;> exact ⟨rfl, rfl, rfl, rfl⟩

/-! ## Spent processors -/

/-- No item waits or is with a worker, and none will be. -/
structure Spent (p : Processor ι σ α) : Prop where
  stage : p.stage = .released
  closing : p.closing = true
  input : p.input = []
  worker : p.worker.all (·.isStopped) = true

theorem Worker.task_of_isStopped {worker : Worker ι σ α} (h : worker.isStopped = true) :
    worker.task = .stopped := by
  unfold isStopped at h
  split at h
  · assumption
  · cases h

theorem task?_of_all_isStopped {p : Processor ι σ α} (h : p.worker.all (·.isStopped) = true) :
    p.task? = none ∨ p.task? = some .stopped := by
  cases hw : p.worker with
  | none => exact .inl (by simp [task?, hw])
  | some worker =>
    rw [hw, Option.all_some] at h
    exact .inr (by simp [task?, hw, Worker.task_of_isStopped h])

theorem workerStep_of_all_isStopped {p : Processor ι σ α} (h : p.worker.all (·.isStopped) = true)
    (op : Operation S (Item ι) σ α) (now : Nat) (s : Setting S) : p.workerStep op now s = none := by
  unfold workerStep
  cases hw : p.worker with
  | none => rfl
  | some worker =>
    rw [hw, Option.all_some] at h
    simp only [Option.bind_some, Worker.task_of_isStopped h]

namespace Spent

variable {p p' : Processor ι σ α}

theorem of_same (h : Spent p) (stage : p'.stage = p.stage) (closing : p'.closing = p.closing)
    (input : p'.input = p.input) (worker : p'.worker = p.worker) : Spent p' :=
  ⟨stage ▸ h.stage, closing ▸ h.closing, input ▸ h.input, worker ▸ h.worker⟩

theorem inWork (h : Spent p) : p.inWork = [] := by
  rcases task?_of_all_isStopped h.worker with ht | ht <;> simp [Processor.inWork, ht, Task.inWork]

theorem inHand (h : Spent p) : p.inHand = [] := by
  rcases task?_of_all_isStopped h.worker with ht | ht <;> simp [Processor.inHand, ht, Task.inHand]

theorem workerStep (h : Spent p) (op : Operation S (Item ι) σ α) (now : Nat) (s : Setting S) :
    p.workerStep op now s = none := workerStep_of_all_isStopped h.worker op now s

end Spent

/-! ## What stops do -/

theorem beginStop_launched {p : Processor ι σ α} (h : p.stage = .launched) (s : Setting S) :
    p.beginStop s = (.worker, { p with closing := true, stage := .released }, s) := by
  simp only [beginStop, h]

theorem beginStop_fresh {p : Processor ι σ α} (h : p.stage = .fresh) (s : Setting S) :
    ∃ stopping s', p.beginStop s =
      (stopping,
        { p.input.foldl answerUnstarted { p with closing := true } with
          input := [], stage := .released, reporterAttended := false }, s') ∧ stopping ≠ .worker := by
  simp only [beginStop, h, answerAllUnstarted]
  exact releaseReporter_eq _ _

theorem beginStop_later {p : Processor ι σ α} (h : p.stage = .released ∨ p.stage = .dropped)
    (s : Setting S) : ∃ stopping s', p.beginStop s =
      (stopping, { p with closing := true, reporterAttended := false }, s') ∧ stopping ≠ .worker := by
  rcases h with h | h <;> simp only [beginStop, h] <;> exact releaseReporter_eq _ _

/-- What the first step of a stop leaves alone, and what it does to the items. -/
structure StopBegun (p p' : Processor ι σ α) : Prop where
  config : p'.config = p.config
  lifetime : p'.lifetime = p.lifetime
  reader : p'.reader = p.reader
  worker : p'.worker = p.worker
  closing : p'.closing = true
  stage : p'.stage = if p.stage = .dropped then p.stage else .released
  /-- The items are left to the worker, if one was ever launched. -/
  kept : p.stage ≠ .fresh → p'.input = p.input
  answered : p.stage = .fresh → p'.input = []

theorem stopBegun (p : Processor ι σ α) (s : Setting S) : StopBegun p (p.beginStop s).2.1 := by
  cases hs : p.stage with
  | fresh =>
    obtain ⟨stopping, s', he, -⟩ := beginStop_fresh hs s
    obtain ⟨output, counters, hf⟩ := foldl_answerUnstarted p.input { p with closing := true }
    rw [he, hf]
    exact ⟨rfl, rfl, rfl, rfl, rfl, by simp [hs], by simp [hs], fun _ => rfl⟩
  | launched =>
    rw [beginStop_launched hs]
    exact ⟨rfl, rfl, rfl, rfl, rfl, by simp [hs], fun _ => rfl, by simp [hs]⟩
  | released | dropped =>
    obtain ⟨stopping, s', he, -⟩ := beginStop_later (p := p) (by simp [hs]) s
    rw [he]
    exact ⟨rfl, rfl, rfl, rfl, rfl, by simp [hs], fun _ => rfl, by simp [hs]⟩

/-! ## What the stage tells of the worker -/

/-- What the stage of a processor and its closing tell of the worker. -/
structure Sound (p : Processor ι σ α) : Prop where
  fresh : p.stage = .fresh → p.worker = none
  launched : p.stage = .launched → p.worker ≠ none
  released : p.stage = .released → p.closing = true
  kept : p.stage ≠ .dropped
  drained : ∀ task n, p.worker = some ⟨task, some n⟩ → p.closing = true
  halted : ∀ drained, p.worker = some ⟨.stopped, drained⟩ → p.closing = true ∧ p.input = []

namespace Sound

variable {p p' : Processor ι σ α}

theorem of_same (h : Sound p) (stage : p'.stage = p.stage) (worker : p'.worker = p.worker)
    (closing : p.closing = true → p'.closing = true) (input : p'.input = p.input) : Sound p' where
  fresh hs := by rw [worker]; exact h.fresh (stage ▸ hs)
  launched hs := by rw [worker]; exact h.launched (stage ▸ hs)
  released hs := closing (h.released (stage ▸ hs))
  kept := by rw [stage]; exact h.kept
  drained task n hw := closing (h.drained task n (worker ▸ hw))
  halted drained hw := by
    obtain ⟨hc, hi⟩ := h.halted drained (worker ▸ hw)
    exact ⟨closing hc, input ▸ hi⟩

/-- A worker that has stopped has left a closing processor with nothing to do. -/
theorem spent (h : Sound p) (stage : p.stage = .released) (worker : p.worker ≠ none)
    (stopped : p.worker.all (·.isStopped) = true) : Spent p := by
  cases hw : p.worker with
  | none => exact absurd hw worker
  | some worker =>
    obtain ⟨task, drained⟩ := worker
    rw [hw, Option.all_some] at stopped
    obtain rfl := Worker.task_of_isStopped stopped
    obtain ⟨hc, hi⟩ := h.halted drained hw
    exact ⟨stage, hc, hi, by rw [hw, Option.all_some]; exact stopped⟩

theorem accept (h : Sound p) (opened : p.closing = false) (item : Item ι) :
    Sound ({ p with input := p.input ++ [item] }.count .submitted) where
  fresh := h.fresh
  launched := h.launched
  released := h.released
  kept := h.kept
  drained := h.drained
  halted drained hw := by
    rw [(h.halted drained hw).1] at opened
    cases opened

theorem launch (p : Processor ι σ α) (reporter : Option Reporter) (attended : Bool) :
    Sound ({ p with
      stage := .launched
      worker := some ⟨.starting, none⟩
      reporter := reporter
      reporterAttended := attended } : Processor ι σ α) where
  fresh := nofun
  launched _ := nofun
  released := nofun
  kept := nofun
  drained := nofun
  halted := nofun

/-- After the first step of a stop no item waits without a worker. -/
theorem beginStop (h : Sound p) (s : Setting S) : Sound (p.beginStop s).2.1 := by
  cases hs : p.stage with
  | fresh =>
    obtain ⟨stopping, s', he, -⟩ := beginStop_fresh hs s
    obtain ⟨output, counters, hf⟩ := foldl_answerUnstarted p.input { p with closing := true }
    rw [he, hf]
    exact
      { fresh := nofun
        launched := nofun
        released := fun _ => rfl
        kept := nofun
        drained := fun _ _ _ => rfl
        halted := fun _ _ => ⟨rfl, rfl⟩ }
  | launched =>
    rw [beginStop_launched hs]
    exact
      { fresh := nofun
        launched := nofun
        released := fun _ => rfl
        kept := nofun
        drained := fun _ _ _ => rfl
        halted := fun drained hw => ⟨rfl, (h.halted drained hw).2⟩ }
  | released =>
    obtain ⟨stopping, s', he, -⟩ := beginStop_later (.inl hs) s
    rw [he]
    exact h.of_same rfl rfl (fun _ => rfl) rfl
  | dropped => exact absurd hs h.kept

theorem worked {op : Operation S (Item ι) σ α} {now} {s s' : Setting S} (h : Sound p)
    (hw : Worked op now p s p' s') : Sound p' := by
  have some_of {worker} (he : p.worker = some worker) : p.stage ≠ .fresh := fun hs => by
    rw [h.fresh hs] at he
    cases he
  cases hw with
  | began hw | tried hw _ _ | concluded hw _ | delivered hw _ | discarded hw _ _ =>
    exact
      { fresh := fun hs => absurd hs (some_of hw)
        launched := fun _ => nofun
        released := h.released
        kept := h.kept
        drained := fun _ n he => by cases he; exact h.drained _ n hw
        halted := fun _ he => by cases he }
  | turned hw hc =>
    exact
      { fresh := fun hs => absurd hs (some_of hw)
        launched := fun _ => nofun
        released := h.released
        kept := h.kept
        drained := fun _ _ _ => hc
        halted := fun _ he => by cases he }
  | @took drained _ _ hw _ _ =>
    exact
      { fresh := fun hs => absurd hs (some_of hw)
        launched := fun _ => nofun
        released := h.released
        kept := h.kept
        drained := fun _ _ he => by
          cases drained with
          | none => cases he
          | some n => exact h.drained _ n hw
        halted := fun _ he => by cases he }
  | @halted n hw hi =>
    exact
      { fresh := fun hs => absurd hs (some_of hw)
        launched := fun _ => nofun
        released := h.released
        kept := h.kept
        drained := fun _ _ _ => h.drained _ n hw
        halted := fun _ _ => ⟨h.drained _ n hw, hi⟩ }

end Sound

/-! ## Runs -/

namespace World

variable {op : Operation S (Item ι) σ α} {w : World S ι σ α}

/-- What a stop that waits, the reporter, and all around the processor leave alone:
everything but the reporter itself. -/
structure Aside (w w' : World S ι σ α) : Prop where
  books : w'.books = w.books
  now : w.now ≤ w'.now
  processor : ∃ reporter attended,
    w'.processor = { w.processor with reporter := reporter, reporterAttended := attended }

theorem aside_apply (op : Operation S (Item ι) σ α) (w : World S ι σ α) {e : Event S ι}
    (he : e.isAside = true) : Aside w (w.apply op e) := by
  have same {w' : World S ι σ α} (books : w'.books = w.books) (now : w.now ≤ w'.now)
      (processor : w'.processor = w.processor) : Aside w w' :=
    ⟨books, now, w.processor.reporter, w.processor.reporterAttended, processor⟩
  have m := Happened.of_apply op w e
  generalize w.apply op e = w' at m ⊢
  cases m with
  | ignored _ | gaveUp | around setting => exact same rfl (Nat.le_refl _) rfl
  | @proceeded _ next _ hn =>
    have now : w.now ≤ (w.proceedStop next).now := Nat.le_of_eq (now_proceedStop next).symm
    refine ⟨books_proceedStop next, now, w.processor.reporter, ?_⟩
    rw [processor_proceedStop]
    exact processor_of_continueStop hn
  | @reported _ reporter' _ _ _ =>
    exact ⟨rfl, Nat.le_refl _, some reporter', w.processor.reporterAttended, rfl⟩
  | passed d => exact same rfl (Nat.le_add_right _ _) rfl
  | admitted | refused | started | stopped | aborted | claimed | read | unread | worked => cases he

/-- The settings never change. The processor begins to close when a stop or an
abort is called, and at no other event. -/
theorem steady_apply (e : Event S ι) : (w.apply op e).processor.config = w.processor.config ∧
    (w.apply op e).processor.closing = (w.processor.closing || e.closes) := by
  by_cases he : e.isAside = true
  · obtain ⟨reporter, attended, hp⟩ := (aside_apply op w he).processor
    rw [hp, Event.closes_of_isAside he, Bool.or_false]
    exact ⟨rfl, rfl⟩
  have m := Happened.of_apply op w e
  generalize w.apply op e = w' at m ⊢
  cases m with
  | ignored impossible => exact ⟨rfl, by rw [impossible.closes, Bool.or_false]⟩
  | admitted _ _ | refused _ | started _ | claimed _ | read _ _ | unread _ =>
    exact ⟨rfl, (Bool.or_false _).symm⟩
  | stopped =>
    have begun := w.processor.stopBegun w.setting
    simp only [processor_stop, begun.config, begun.closing, Event.closes, Bool.or_true, and_self]
  | aborted => exact ⟨rfl, (Bool.or_true _).symm⟩
  | worked worked _ =>
    obtain ⟨hc, -, hl, -⟩ := worked.steady
    exact ⟨hc, hl.trans (Bool.or_false _).symm⟩
  | proceeded | gaveUp | reported | passed | around => exact absurd rfl he

theorem config_play (op : Operation S (Item ι) σ α) (config : Config) (setting : Setting S)
    (events : List (Event S ι)) : (play op config setting events).processor.config = config := by
  refine play_induction (P := fun w => w.processor.config = config) rfl (fun w e h => ?_) events
  rw [(steady_apply e).1, h]

/-- A processor is closing once a stop or an abort was called. -/
theorem closing_play (op : Operation S (Item ι) σ α) (config : Config) (setting : Setting S)
    (events : List (Event S ι)) :
    (play op config setting events).processor.closing = events.any (·.closes) := by
  induction events using List.reverseRecOn with
  | nil => rfl
  | append_singleton events e ih =>
    rw [play_concat, (steady_apply e).2, ih, List.any_append]
    simp only [List.any_cons, List.any_nil, Bool.or_false]

/-- Where a stop has come, and what it has brought about. -/
structure Orderly (w : World S ι σ α) : Prop where
  sound : Sound w.processor
  underway : w.stopping.isSome = true → w.processor.stage = .released
  awaited : w.stopping = some .worker → w.processor.worker ≠ none
  done : w.processor.stage = .released → w.forsaken = false → w.stopping ≠ some .worker →
    Spent w.processor
  stopped : w.stopped = true → Spent w.processor

namespace Orderly

theorem of_processor {p : Processor ι σ α} {setting : Setting S} {books : Books ι α} {now : Nat}
    (h : Orderly w) (sound : Sound p)
    (stage : p.stage = .released ↔ w.processor.stage = .released)
    (worker : w.processor.worker ≠ none → p.worker ≠ none) (spent : Spent w.processor → Spent p) :
    Orderly { w with processor := p, setting := setting, now := now, books := books } where
  sound := sound
  underway hs := stage.2 (h.underway hs)
  awaited hs := worker (h.awaited hs)
  done hr hf hs := spent (h.done (stage.1 hr) hf hs)
  stopped hs := spent (h.stopped hs)

theorem proceed {next : Stopping × Processor ι σ α × Setting S} (sound : Sound next.2.1)
    (stage : next.2.1.stage = .released) (worker : next.1 = .worker → next.2.1.worker ≠ none)
    (done : w.forsaken = false → next.1 ≠ .worker → Spent next.2.1)
    (stopped : w.stopped = true → Spent next.2.1) : Orderly (w.proceedStop next) := by
  obtain ⟨stopping, p, setting⟩ := next
  cases stopping with
  | nothing =>
    exact
      { sound := sound
        underway := nofun
        awaited := nofun
        done := fun _ hf _ => done hf nofun
        stopped := fun hs => by
          simp only [proceedStop, Bool.or_eq_true, Bool.not_eq_true'] at hs
          rcases hs with hs | hf
          · exact stopped hs
          · exact done hf nofun }
  | worker =>
    exact
      { sound := sound
        underway := fun _ => stage
        awaited := fun _ => worker rfl
        done := fun _ _ hs => absurd rfl hs
        stopped := stopped }
  | reporter =>
    exact
      { sound := sound
        underway := fun _ => stage
        awaited := nofun
        done := fun _ hf _ => done hf nofun
        stopped := stopped }

theorem giveUpStop (h : Orderly w) : Orderly w.giveUpStop where
  sound := h.sound
  underway := nofun
  awaited := nofun
  done hr hf _ := by
    simp only [World.giveUpStop, Bool.or_eq_false_iff, Option.isSome_eq_false_iff,
      Option.isNone_iff_eq_none] at hf
    exact h.done hr hf.1 (by rw [hf.2]; exact nofun)
  stopped := h.stopped

theorem stop (h : Orderly w) : Orderly w.stop := by
  have hg := h.giveUpStop
  have hsound := h.sound.beginStop w.setting
  unfold World.stop
  cases hs : w.processor.stage with
  | fresh =>
    obtain ⟨stopping, s', he, hn⟩ := beginStop_fresh hs w.setting
    obtain ⟨output, counters, hf⟩ :=
      foldl_answerUnstarted w.processor.input { w.processor with closing := true }
    rw [he, hf] at hsound ⊢
    have hworker : w.processor.worker.all (·.isStopped) = true := by rw [h.sound.fresh hs]; rfl
    exact proceed hsound rfl (fun hw => absurd hw hn) (fun _ _ => ⟨rfl, rfl, rfl, hworker⟩)
      (fun _ => ⟨rfl, rfl, rfl, hworker⟩)
  | launched =>
    rw [beginStop_launched hs] at hsound ⊢
    refine proceed hsound rfl (fun _ => h.sound.launched hs) (fun _ hw => absurd rfl hw) fun hst => ?_
    -- No stop has returned before: it would have left the processor released.
    have := (h.stopped hst).stage
    rw [hs] at this
    cases this
  | released =>
    obtain ⟨stopping, s', he, hn⟩ := beginStop_later (.inl hs) w.setting
    rw [he] at hsound ⊢
    have keep (hp : Spent w.processor) :
        Spent { w.processor with closing := true, reporterAttended := false } :=
      hp.of_same rfl hp.closing.symm rfl rfl
    exact proceed hsound hs (fun hw => absurd hw hn) (fun hf _ => keep (hg.done hs hf nofun))
      (fun hst => keep (h.stopped hst))
  | dropped => exact absurd hs h.sound.kept

theorem proceeded {stopping next} (h : Orderly w) (hs : w.stopping = some stopping)
    (hn : w.processor.continueStop w.setting stopping = some next) : Orderly (w.proceedStop next) := by
  have hstage := h.underway (by rw [hs]; rfl)
  rcases continueStop_eq_some hn with ⟨rfl, hw, hne, hp⟩ | ⟨rfl, hn', hp⟩
  · have hspent : Spent next.2.1 := by
      rw [hp]
      exact (h.sound.spent hstage (h.awaited hs) hw).of_same rfl rfl rfl rfl
    exact proceed (by rw [hp]; exact h.sound.of_same rfl rfl (fun hc => hc) rfl) (by rw [hp]; exact hstage)
      (fun he => absurd he hne) (fun _ _ => hspent) (fun _ => hspent)
  · exact proceed (by rw [hp]; exact h.sound) (by rw [hp]; exact hstage)
      (fun he => by rw [hn'] at he; cases he)
      (fun hf _ => by rw [hp]; exact h.done hstage hf (by rw [hs]; nofun))
      (fun hst => by rw [hp]; exact h.stopped hst)

theorem apply (h : Orderly w) (e : Event S ι) : Orderly (w.apply op e) := by
  have same {p : Processor ι σ α} {setting : Setting S} {books : Books ι α} {now : Nat}
      (stage : p.stage = w.processor.stage) (worker : p.worker = w.processor.worker)
      (closing : p.closing = w.processor.closing) (input : p.input = w.processor.input) :
      Orderly { w with processor := p, setting := setting, books := books, now := now } :=
    h.of_processor (h.sound.of_same stage worker (fun hc => closing ▸ hc) input) (by rw [stage])
      (fun hw => worker ▸ hw) fun hs => hs.of_same stage closing input worker
  have m := Happened.of_apply op w e
  generalize w.apply op e = w' at m ⊢
  cases m with
  | ignored _ => exact h
  | admitted opened _ =>
    refine h.of_processor (h.sound.accept opened _) Iff.rfl (fun hw => hw) fun hs => ?_
    -- What is spent is closed and admits nothing.
    rw [hs.closing] at opened
    cases opened
  | started fresh =>
    refine h.of_processor (.launch _ _ _) ⟨nofun, fun released => ?_⟩ (fun _ => nofun) fun spent => ?_
    · rw [fresh] at released
      cases released
    · have := spent.stage
      rw [fresh] at this
      cases this
  | stopped => exact h.stop
  | proceeded underway hn => exact h.proceeded underway hn
  | gaveUp => exact h.giveUpStop
  | aborted =>
    exact h.of_processor (h.sound.of_same rfl rfl (fun _ => rfl) rfl) Iff.rfl (fun hw => hw)
      fun hs => hs.of_same rfl hs.closing.symm rfl rfl
  | worked worked hs =>
    refine h.of_processor (h.sound.worked worked) (by rw [worked.steady.2.1]) (fun _ => ?_) fun spent => ?_
    · cases worked <;> exact nofun
    · rw [spent.workerStep] at hs
      cases hs
  | refused _ | claimed _ | read _ _ | unread _ | reported _ _ | passed d | around setting =>
    exact same rfl rfl rfl rfl

end Orderly

/-- Stops are in order after every run. -/
theorem orderly_play (op : Operation S (Item ι) σ α) (config : Config) (setting : Setting S)
    (events : List (Event S ι)) : Orderly (play op config setting events) :=
  play_induction
    { sound := ⟨fun _ => rfl, nofun, nofun, nofun, nofun, nofun⟩
      underway := nofun
      awaited := nofun
      done := nofun
      stopped := nofun }
    (fun _ e h => h.apply e) events

end World

end CallGuard.Processor
