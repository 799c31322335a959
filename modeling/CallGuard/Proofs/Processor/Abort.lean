/-
What an abort leads to, whenever it comes and whatever happens afterwards. An abort cannot
be taken back, so the processor stays as it was left by it: no call is begun, no item
admitted, and all that was outstanding is cancelled. A bounded number of its own steps
later the worker is gone, whether or not time passes and anybody reads.
-/
import CallGuard.Proofs.Processor.Accounting
import CallGuard.Proofs.Processor.Discards
import CallGuard.Proofs.Processor.Doomed

namespace CallGuard.Processor

variable {S ι σ α : Type}

/-! ## What else happens -/

namespace Event

/-- The steps of the worker. -/
def isWork : Event S ι → Bool
  | .work => true
  | _ => false

theorem eq_work {e : Event S ι} (h : e.isWork = true) : e = .work := by
  cases e <;> first | rfl | cases h

/-- What changes around a processor takes no cancellation back. -/
def Lasts (s : Signals) : Event S ι → Prop
  | .around setting => ∀ t, s.isRaised t = true → setting.signals.isRaised t = true
  | _ => True

end Event

theorem raised_releaseReporter (p : Processor ι σ α) {s : Setting S} {t : Token}
    (h : s.signals.isRaised t = true) : (p.releaseReporter s).2.2.signals.isRaised t = true :=
  (Signals.isRaised_raise _ _ _).2 (.inl h)

theorem raised_beginStop (p : Processor ι σ α) {s : Setting S} {t : Token}
    (h : s.signals.isRaised t = true) : (p.beginStop s).2.2.signals.isRaised t = true := by
  unfold beginStop
  cases p.stage with
  | launched => exact h
  | released | dropped => exact raised_releaseReporter _ h
  | fresh =>
    refine raised_releaseReporter _ ?_
    dsimp only
    split <;> exact h

theorem Reporter.signals_step {now : Nat} {counters : Counters} {depth : Nat} {r r' : Reporter}
    {s s' : Setting S} (h : r.step now counters depth s = some (r', s')) : s'.signals = s.signals := by
  unfold step at h
  split at h
  · cases h
    rfl
  · split at h
    · cases h
      rfl
    · split at h <;> cases h
      rfl
  · cases h

namespace World

variable {op : Operation S (Item ι) σ α} {config : Config} {setting : Setting S} {w : World S ι σ α}
  {e : Event S ι}

/-- A worker comes from a start, and only its own steps change it. -/
theorem worker_apply (op : Operation S (Item ι) σ α) (w : World S ι σ α) (he : e.isWork = false) :
    (w.apply op e).processor.lifetime = w.processor.lifetime ∧
      ((w.apply op e).processor.worker = w.processor.worker ∨
        w.processor.stage = .fresh ∧ (w.apply op e).processor.worker = some ⟨.starting, none⟩) := by
  have m := Happened.of_apply op w e
  generalize w.apply op e = w' at m ⊢
  cases m with
  | worked => cases he
  | started fresh => exact ⟨rfl, .inr ⟨fresh, rfl⟩⟩
  | stopped =>
    have begun := w.processor.stopBegun w.setting
    rw [processor_stop]
    exact ⟨begun.lifetime, .inl begun.worker⟩
  | proceeded _ hn =>
    obtain ⟨attended, hp⟩ := processor_of_continueStop hn
    rw [processor_proceedStop, hp]
    exact ⟨rfl, .inl rfl⟩
  | ignored _ | admitted _ _ | refused _ | gaveUp | aborted | claimed _ | read _ _ | unread _
  | reported _ _ | passed d | around setting => exact ⟨rfl, .inl rfl⟩

/-- Once a processor closes, its items are left to the worker. Only a stop of a processor
that was never started takes them. -/
theorem items_apply (op : Operation S (Item ι) σ α) (closing : w.processor.closing = true)
    (he : e.isWork = false) (hs : e = .stop → w.processor.stage ≠ .fresh) :
    (w.apply op e).processor.input = w.processor.input ∧
      (w.apply op e).books.admitted = w.books.admitted ∧
      (w.apply op e).books.recorded = w.books.recorded := by
  have m := Happened.of_apply op w e
  generalize w.apply op e = w' at m ⊢
  cases m with
  | worked => cases he
  | admitted opened _ =>
    rw [closing] at opened
    cases opened
  | stopped =>
    have books : w.stop.books = w.books := by
      rw [stop, books_proceedStop, Books.watchStop, if_neg (hs rfl)]
    rw [processor_stop, books]
    exact ⟨(w.processor.stopBegun w.setting).kept (hs rfl), rfl, rfl⟩
  | proceeded _ hn =>
    obtain ⟨attended, hp⟩ := processor_of_continueStop hn
    rw [processor_proceedStop, books_proceedStop, hp]
    exact ⟨rfl, rfl, rfl⟩
  | ignored _ | refused _ | started _ | gaveUp | aborted | claimed _ | read _ _ | unread _
  | reported _ _ | passed d | around setting => exact ⟨rfl, rfl, rfl⟩

/-- Nothing but the work itself could take a cancellation back. -/
theorem raised_apply (he : e.isWork = false) (lasts : e.Lasts w.setting.signals) {t : Token}
    (h : w.setting.signals.isRaised t = true) : (w.apply op e).setting.signals.isRaised t = true := by
  have m := Happened.of_apply op w e
  generalize w.apply op e = w' at m ⊢
  cases m with
  | worked => cases he
  | stopped =>
    rw [stop, setting_proceedStop]
    exact raised_beginStop _ h
  | @proceeded stopping next _ hn =>
    rw [setting_proceedStop]
    cases stopping with
    | nothing => cases hn
    | worker | reporter =>
      simp only [continueStop] at hn
      split at hn <;> cases hn
      first | exact raised_releaseReporter _ h | exact h
  | aborted => exact (Signals.isRaised_raise _ _ _).2 (.inl h)
  | reported _ stepped =>
    rw [Reporter.signals_step stepped]
    exact h
  | around setting => exact lasts t h
  | ignored _ | admitted _ _ | refused _ | started _ | gaveUp | claimed _ | read _ _ | unread _
  | passed d => exact h

theorem derived_apply (h : Derived w.processor) (e : Event S ι) : Derived (w.apply op e).processor := by
  cases he : e.isWork with
  | true =>
    rw [Event.eq_work he]
    simp only [apply, work]
    split
    · rename_i hs
      exact h.worked (Worked.of_workerStep hs)
    · exact h
  | false =>
    intro order effort drained hw
    obtain ⟨lifetime, same | ⟨-, started⟩⟩ := worker_apply op w he
    · rw [lifetime]
      exact h order effort drained (same ▸ hw)
    · rw [started] at hw
      cases hw

theorem derived_play (op : Operation S (Item ι) σ α) (config : Config) (setting : Setting S)
    (events : List (Event S ι)) : Derived (play op config setting events).processor :=
  play_induction (P := fun w => Derived w.processor) nofun (fun _ e h => derived_apply h e) events

/-! ## Runs -/

theorem doomed_apply (op : Operation S (Item ι) σ α) (h : Doomed w.processor w.setting)
    (he : e.isWork = false) (lasts : e.Lasts w.setting.signals) :
    Doomed (w.apply op e).processor (w.apply op e).setting := by
  refine ⟨by rw [(steady_apply e).2, h.closing, Bool.true_or], ?_, derived_apply h.derived e⟩
  rw [(worker_apply op w he).1]
  exact raised_apply he lasts h.raised

/-- How things stand in a world `w` that an abort in the world `w₀` has led to. -/
structure Aborted (w₀ w : World S ι σ α) : Prop where
  doomed : Doomed w.processor w.setting
  admitted : w.books.admitted = w₀.books.admitted
  /-- Of what was outstanding, the first part has been recorded, and the rest is
  outstanding still. -/
  recorded : w.processor.stage = .fresh ∨ w.processor.worker ≠ none →
    ∃ new, w.books.recorded = w₀.books.recorded ++ new ∧
      w₀.processor.outstanding = new.map (fun r => (r.1, r.2.outcome)) ++ w.processor.outstanding

namespace Aborted

variable {w₀ : World S ι σ α}

theorem work (h : Aborted w₀ w) (keeps : op.KeepsCancelled) : Aborted w₀ (w.work op) := by
  unfold World.work
  split
  · rename_i p setting hs
    have hw := Worked.of_workerStep hs
    obtain ⟨admitted, new, recorded, outstanding⟩ := h.doomed.recorded_watch hw w.books
    refine ⟨h.doomed.worked keeps hw, admitted.trans h.admitted, fun _ => ?_⟩
    have manned : w.processor.worker ≠ none := fun none => by
      simp only [workerStep, none, Option.bind_none, reduceCtorEq] at hs
    obtain ⟨old, earlier, before⟩ := h.recorded (.inr manned)
    refine ⟨old ++ new, ?_, ?_⟩
    · rw [recorded, earlier, List.append_assoc]
    · rw [before, outstanding, List.map_append, List.append_assoc]
  · exact h

theorem stop_of_fresh (h : Aborted w₀ w) (sound : Sound w.processor)
    (fresh : w.processor.stage = .fresh) (doomed : Doomed w.stop.processor w.stop.setting) :
    Aborted w₀ w.stop := by
  have begun := w.processor.stopBegun w.setting
  rw [← processor_stop] at begun
  refine ⟨doomed, ?_, fun hs => ?_⟩
  · rw [stop, books_proceedStop, Books.watchStop, if_pos fresh, Books.admitted_watchAnswers]
    exact h.admitted
  · rw [begun.stage, begun.worker, if_neg sound.kept, sound.fresh fresh] at hs
    rcases hs with hs | hs
    · cases hs
    · exact absurd rfl hs

theorem elsewhere (h : Aborted w₀ w) (sound : Sound w.processor) (he : e.isWork = false)
    (hs : e = .stop → w.processor.stage ≠ .fresh)
    (doomed : Doomed (w.apply op e).processor (w.apply op e).setting) : Aborted w₀ (w.apply op e) := by
  obtain ⟨input, admitted, recorded⟩ := items_apply op h.doomed.closing he hs
  refine ⟨doomed, admitted.trans h.admitted, fun started => ?_⟩
  rw [recorded]
  rcases (worker_apply op w he).2 with same | ⟨fresh, new⟩
  · have before : w.processor.stage = .fresh ∨ w.processor.worker ≠ none := by
      rw [(moves_apply e).1, same] at started
      exact started.imp_left Stage.fresh_of_next
    have outstanding : (w.apply op e).processor.outstanding = w.processor.outstanding := by
      simp only [Processor.outstanding, task?, same, input]
    rw [outstanding]
    exact h.recorded before
  · have outstanding : (w.apply op e).processor.outstanding = w.processor.outstanding := by
      simp only [Processor.outstanding, task?, new, sound.fresh fresh, input]
      rfl
    rw [outstanding]
    exact h.recorded (.inl fresh)

theorem apply (h : Aborted w₀ w) (sound : Sound w.processor) (keeps : op.KeepsCancelled)
    (lasts : e.Lasts w.setting.signals) : Aborted w₀ (w.apply op e) := by
  cases he : e.isWork with
  | true =>
    cases Event.eq_work he
    exact h.work keeps
  | false =>
    have doomed := doomed_apply op h.doomed he lasts
    by_cases unstarted : e = .stop ∧ w.processor.stage = .fresh
    · obtain ⟨rfl, fresh⟩ := unstarted
      exact h.stop_of_fresh sound fresh doomed
    · exact h.elsewhere sound he (fun hs fresh => unstarted ⟨hs, fresh⟩) doomed

end Aborted

/-- Nothing around the processor takes a cancellation back once it was aborted. -/
def Lasting (op : Operation S (Item ι) σ α) (config : Config) (setting : Setting S)
    (before after : List (Event S ι)) : Prop :=
  ∀ mid e later, after = mid ++ e :: later →
    e.Lasts (play op config setting (before ++ .abort :: mid)).setting.signals

theorem Lasting.left {before mid later : List (Event S ι)}
    (h : Lasting op config setting before (mid ++ later)) : Lasting op config setting before mid :=
  fun first e rest he => h first e (rest ++ later) (by rw [he, List.append_assoc, List.cons_append])

theorem aborted_play (keeps : op.KeepsCancelled) {before after : List (Event S ι)}
    (lasting : Lasting op config setting before after) :
    Aborted (play op config setting before) (play op config setting (before ++ .abort :: after)) := by
  induction after using List.reverseRecOn with
  | nil =>
    rw [play_concat]
    refine ⟨⟨rfl, ?_, derived_play op config setting before⟩, rfl, fun _ => ⟨[], ?_, rfl⟩⟩
    · exact (Signals.isRaised_raise _ _ _).2 (.inr List.mem_cons_self)
    · exact (List.append_nil _).symm
  | append_singleton after e ih =>
    have lasts := lasting after e [] rfl
    rw [← List.cons_append, ← List.append_assoc, play_concat]
    exact (ih lasting.left).apply (orderly_play op config setting _).sound keeps lasts

/-! ## Calls -/

theorem not_begun_of_doomed (h : Doomed w.processor w.setting) (e : Event S ι) (item : Item ι) :
    .begun item ∉ w.notes op e := by
  cases e with
  | work =>
    rw [notes_work]
    cases w.processor.workerStep op w.now w.setting with
    | none => exact List.not_mem_nil
    | some r =>
      simp only [Option.elim_some, workNotes]
      split
      · rename_i order effort drained hw
        split
        · exact List.not_mem_nil
        · exact Effort.not_begun_of_cancelled (h.ended hw w.now) item
      · exact List.not_mem_nil
  | _ => exact List.not_mem_nil

end World

/-- A call as it was when it began. -/
def Attempt.opened (t : Attempt ι α) : Attempt ι α := { t with ended := none }

namespace World

variable {op : Operation S (Item ι) σ α} {config : Config} {setting : Setting S} {w : World S ι σ α}
  {e : Event S ι}

theorem opened_enter {notes : List (Note (Item ι) α)} (h : ∀ item, .begun item ∉ notes)
    (attempts : List (Attempt ι α)) :
    (notes.foldl w.enter attempts).map (·.opened) = attempts.map (·.opened) := by
  induction notes generalizing attempts with
  | nil => rfl
  | cons note notes ih =>
    rw [List.foldl_cons, ih fun item hm => h item (List.mem_cons_of_mem _ hm)]
    cases note with
    | begun item => exact absurd List.mem_cons_self (h item)
    | ended outcome => cases attempts <;> rfl

theorem opened_play (keeps : op.KeepsCancelled) {before after : List (Event S ι)}
    (lasting : Lasting op config setting before after) :
    (attempts op config setting (before ++ .abort :: after)).map (·.opened) =
      (attempts op config setting before).map (·.opened) := by
  induction after using List.reverseRecOn with
  | nil => rw [attempts_concat]; rfl
  | append_singleton after e ih =>
    rw [← List.cons_append, ← List.append_assoc, attempts_concat,
      opened_enter (not_begun_of_doomed (aborted_play keeps lasting.left).doomed e)]
    exact ih lasting.left

/-! ## The end of the worker -/

/-- Each step of the worker takes it nearer to its end, and nothing else keeps it from it. -/
theorem toil_apply (h : Doomed w.processor w.setting) (sound : Sound w.processor)
    (manned : w.processor.worker ≠ none) (e : Event S ι) :
    (w.apply op e).processor.worker ≠ none ∧
      (w.apply op e).processor.toil ≤ w.processor.toil - if e.isWork then 1 else 0 := by
  cases he : e.isWork with
  | true =>
    rw [Event.eq_work he]
    simp only [apply, work, if_true]
    split
    · rename_i hs
      have hw := Worked.of_workerStep hs
      refine ⟨?_, Nat.le_sub_one_of_lt (h.toil_lt hw)⟩
      cases hw <;> exact Option.some_ne_none _
    · rename_i hs
      refine ⟨manned, ?_⟩
      -- The worker is gone: it would make a step otherwise.
      obtain ⟨worker, hw⟩ := Option.ne_none_iff_exists'.1 manned
      cases going : worker.isStopped with
      | false =>
        have steps := h.isSome_workerStep op w.now hw going
        rw [hs] at steps
        cases steps
      | true =>
        obtain ⟨task, drained⟩ := worker
        obtain rfl := Worker.task_of_isStopped going
        simp only [toil, hw, Nat.zero_le]
  | false =>
    have started : w.processor.stage ≠ .fresh := fun fresh => manned (sound.fresh fresh)
    have worker := (worker_apply op w he).2.resolve_right fun hs => started hs.1
    have input := (items_apply op h.closing he fun _ => started).1
    rw [worker, if_neg (by exact Bool.false_ne_true), Nat.sub_zero]
    exact ⟨manned, Nat.le_of_eq (by simp only [toil, worker, input])⟩

theorem toil_play (keeps : op.KeepsCancelled) {before mid later : List (Event S ι)}
    (lasting : Lasting op config setting before (mid ++ later))
    (manned : (play op config setting (before ++ .abort :: mid)).processor.worker ≠ none) :
    (play op config setting (before ++ .abort :: (mid ++ later))).processor.worker ≠ none ∧
      (play op config setting (before ++ .abort :: (mid ++ later))).processor.toil ≤
        (play op config setting (before ++ .abort :: mid)).processor.toil - later.countP (·.isWork) := by
  induction later using List.reverseRecOn with
  | nil => exact ⟨by rw [List.append_nil]; exact manned, by rw [List.append_nil]; exact Nat.le_refl _⟩
  | append_singleton later e ih =>
    rw [← List.append_assoc] at lasting ⊢
    obtain ⟨still, bound⟩ := ih lasting.left
    rw [← List.cons_append, ← List.append_assoc, play_concat, List.countP_append,
      List.countP_singleton]
    obtain ⟨manned', step⟩ := toil_apply (aborted_play keeps lasting.left).doomed
      (orderly_play op config setting _).sound still e
    exact ⟨manned', by omega⟩

/-! ## Every abort -/

/-- The worker is between two turns: it has made no step since it could make none. -/
def Yields (op : Operation S (Item ι) σ α) (config : Config) (setting : Setting S)
    (events : List (Event S ι)) : Prop :=
  ∃ first rest, events = first ++ rest ∧ (∀ e ∈ rest, e.isWork = false) ∧
    (play op config setting first).processor.workerStep op (play op config setting first).now
      (play op config setting first).setting = none

theorem Yields.atRest {events : List (Event S ι)} (h : Yields op config setting events) :
    AtRest (play op config setting events).processor := by
  obtain ⟨first, rest, rfl, quiet, waits⟩ := h
  induction rest using List.reverseRecOn with
  | nil =>
    rw [List.append_nil]
    exact atRest_of_waits waits
  | append_singleton rest e ih =>
    have before := ih fun e he => quiet e (List.mem_append_left _ he)
    have he : e.isWork = false := quiet e (List.mem_append_right _ (List.mem_singleton_self e))
    rw [← List.append_assoc, play_concat]
    intro order effort ht
    rcases (worker_apply op (play op config setting (first ++ rest)) he).2 with
      same | ⟨-, started⟩
    · exact before order effort (by rw [← ht, task?, task?, same])
    · rw [task?, started] at ht
      cases ht

end World

theorem Books.counters_of_cancelled {b b' : Books ι α} {new : List (Item ι × Result α)}
    (recorded : b'.recorded = b.recorded ++ new) (h : ∀ r ∈ new, r.2.outcome = cancelled) :
    b'.counters.succeeded = b.counters.succeeded ∧ b'.counters.timedOut = b.counters.timedOut ∧
      b'.counters.failed = Word.wrap (b.counters.failed + new.length) := by
  have succeeded : new.countP (·.2.outcome.isOk) = 0 :=
    List.countP_eq_zero.2 fun r hr => by rw [h r hr]; exact Bool.false_ne_true
  have timedOut : new.countP (isTimeout ·.2.outcome) = 0 :=
    List.countP_eq_zero.2 fun r hr => by rw [h r hr]; exact Bool.false_ne_true
  have failed : new.countP (!·.2.outcome.isOk) = new.length :=
    List.countP_eq_length.2 fun r hr => by rw [h r hr]; rfl
  simp only [counters, recorded, List.countP_append, succeeded, timedOut, failed, Nat.add_zero,
    true_and, Word.wrap, Nat.mod_add_mod]

namespace World

variable {op : Operation S (Item ι) σ α} {config : Config} {setting : Setting S}

/-- What holds of a world `w` to which `after` has led from an abort in the world `w₀`. -/
structure CutShort (op : Operation S (Item ι) σ α) (config : Config) (setting : Setting S)
    (before after : List (Event S ι)) (w₀ w : World S ι σ α) : Prop where
  /-- No call is begun any more. -/
  uncalled : (attempts op config setting (before ++ .abort :: after)).map (·.opened) =
    (attempts op config setting before).map (·.opened)
  /-- Every submit is refused, those after `w` too. -/
  refused : w.books.admitted = w₀.books.admitted ∧
    ∀ id payload, (w.processor.submit id payload w.now w.setting).1 = false
  /-- If there is a worker by now, what was recorded since is the first part of what was
  outstanding, in the same order, and the rest is outstanding still. -/
  recorded : w.processor.worker ≠ none → ∃ new, w.books.recorded = w₀.books.recorded ++ new ∧
    w₀.processor.outstanding = new.map (fun r => (r.1, r.2.outcome)) ++ w.processor.outstanding
  /-- The worker records an outcome in the turn in which it comes to it. -/
  turn : Yields op config setting before → AtRest w₀.processor
  /-- So each item in work and each that waits was cancelled -/
  cancels : AtRest w₀.processor →
    w₀.processor.outstanding = (w₀.processor.inWork ++ w₀.processor.input).map (·, cancelled)
  /-- and counted as failed, and not otherwise. -/
  counted : AtRest w₀.processor → w.processor.worker ≠ none →
    w.processor.counters.succeeded = w₀.processor.counters.succeeded ∧
    w.processor.counters.timedOut = w₀.processor.counters.timedOut ∧
    w.processor.counters.failed = Word.wrap (w₀.processor.counters.failed +
      (w.books.recorded.length - w₀.books.recorded.length))
  /-- Wherever the worker is, it can go on at once, -/
  waitless : ∀ worker, w.processor.worker = some worker → worker.isStopped = false →
    (w.processor.workerStep op w.now w.setting).isSome = true
  /-- and after so many steps from wherever it was it is gone, whatever else has happened
  in between or not. -/
  exits : ∀ mid later, after = mid ++ later →
    (play op config setting (before ++ .abort :: mid)).processor.worker ≠ none →
    4 * (play op config setting (before ++ .abort :: mid)).processor.input.length + 5 ≤
      later.countP (·.isWork) →
    ∃ worker, w.processor.worker = some worker ∧ worker.isStopped = true
  /-- By then each item ever admitted has its one outcome. -/
  answered : ∀ worker, w.processor.worker = some worker → worker.isStopped = true →
    w.processor.outstanding = [] ∧ w.books.recorded.map (·.1) = w₀.books.admitted

/-- **Aborts.** Whatever the operation does and whenever a processor is aborted, before its
start too, no call is begun from then on and no item admitted. All that was outstanding is
cancelled, and the worker is gone after a few steps of its own, for which it needs neither
time nor a reader. -/
theorem play_aborted (op : Operation S (Item ι) σ α) (config : Config) (setting : Setting S)
    (before after : List (Event S ι)) (keeps : op.KeepsCancelled)
    (lasting : Lasting op config setting before after) :
    CutShort op config setting before after (play op config setting before)
      (play op config setting (before ++ .abort :: after)) := by
  have aborted := aborted_play keeps lasting
  have booked₀ : Booked _ _ := booked_play op config setting before
  have booked : Booked _ _ := booked_play op config setting (before ++ .abort :: after)
  have sound := (orderly_play op config setting (before ++ .abort :: after)).sound
  refine
    { uncalled := opened_play keeps lasting
      refused := ⟨aborted.admitted, fun id payload => ?_⟩
      recorded := fun manned => aborted.recorded (.inr manned)
      turn := Yields.atRest
      cancels := outstanding_of_atRest
      counted := fun rest manned => ?_
      waitless := fun worker => aborted.doomed.isSome_workerStep op _
      exits := fun mid later he manned many => ?_
      answered := fun worker hw stopped => ?_ }
  · rw [Processor.submit, if_pos aborted.doomed.closing]
  · obtain ⟨new, recorded, outstanding⟩ := aborted.recorded (.inr manned)
    have all : ∀ r ∈ new, r.2.outcome = cancelled := fun r hr => by
      rw [outstanding_of_atRest rest] at outstanding
      have mem := List.mem_append_left
        (play op config setting (before ++ .abort :: after)).processor.outstanding
        (List.mem_map_of_mem (f := fun r : Item ι × Result α => (r.1, r.2.outcome)) hr)
      rw [← outstanding] at mem
      obtain ⟨item, -, same⟩ := List.mem_map.1 mem
      exact (congrArg Prod.snd same).symm
    have counters := Books.counters_of_cancelled recorded all
    rw [booked.counted, booked₀.counted, recorded, List.length_append, Nat.add_sub_cancel_left]
    exact counters
  · subst he
    obtain ⟨still, bound⟩ := toil_play keeps lasting manned
    obtain ⟨worker, hw⟩ := Option.ne_none_iff_exists'.1 still
    refine ⟨worker, hw, isStopped_of_toil hw ?_⟩
    have := (play op config setting (before ++ .abort :: mid)).processor.toil_le
    omega
  · obtain ⟨task, drained⟩ := worker
    obtain rfl := Worker.task_of_isStopped stopped
    have ht := task?_of_worker hw
    have input := (sound.halted drained hw).2
    refine ⟨by simp only [outstanding, ht, Option.elim_some, Task.outstanding, input]; rfl, ?_⟩
    rw [← aborted.admitted, booked.items, inWork_of_task ht, input]
    simp only [Task.inWork, List.append_nil]

/-- One item is in an attempt and another one waits when the processor is aborted, and
nobody reads the result of the one before. -/
theorem play_aborted_full :
    let op : Operation Unit (Item Nat) (Scope × Activity Nat) Nat :=
      .scripted
        (fun item _ => if item.payload = 1 then .finish (.value 7) else .sleep 50 (.finish (.value 8)))
        (fun _ _ s => s) (fun _ s => s)
    let config : Config := ⟨1, 100, none, [], none, by decide, by decide, nofun, nofun⟩
    let before : List (Event Unit Nat) :=
      [.submit "a" 1, .start, .work, .work, .work, .work, .work, .submit "b" 2, .work, .work,
        .submit "c" 3]
    let after : List (Event Unit Nat) := List.replicate 9 .work
    let run := play op config ⟨.empty, [], ()⟩
    op.KeepsCancelled ∧ Lasting op config ⟨.empty, [], ()⟩ before after ∧
      CutShort op config ⟨.empty, [], ()⟩ before after (run before) (run (before ++ .abort :: after)) ∧
      (run (before ++ .abort :: after)).books.recorded.map (fun r => (r.1.id, r.2.outcome.isOk)) =
        [("a", true), ("b", false), ("c", false)] ∧
      (run (before ++ .abort :: after)).processor.counters = ⟨3, 0, 1, 2, 0, 2⟩ ∧
      (run (before ++ .abort :: after)).processor.worker.map (·.isStopped) = some true := by
  intro op config before after run
  have keeps : op.KeepsCancelled := Operation.scripted_keepsCancelled _ _ _
  have lasting : Lasting op config ⟨.empty, [], ()⟩ before after := fun mid e later he => by
    obtain rfl : e = .work := List.eq_of_mem_replicate (he ▸ List.mem_append_right mid List.mem_cons_self)
    trivial
  exact ⟨keeps, lasting, play_aborted op config _ before after keeps lasting, by decide +kernel,
    by decide +kernel, by decide +kernel⟩

end World

end CallGuard.Processor
