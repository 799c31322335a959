/-
Stops end in time. While a stop of a launched processor is under way (`Underway`), the instant
by which all items are recorded does not move (`World.lastRecord`), and no time passes once they
are. The worker and the reporter come to rest at every instant, so that the clock is never
held up, and the stop returns. It waits for no reader: what was delivered is read from the
output queue later, and then its end.
-/
import CallGuard.Proofs.Processor.Halting
import CallGuard.Proofs.Processor.Release
import Mathlib.Data.List.Infix

namespace CallGuard.Processor

variable {S ι σ α : Type}

namespace Event

/-- A processor gets on with these by itself, without any time. -/
def isStep : Event S ι → Bool
  | .work | .report | .awaitStop => true
  | _ => false

/-- A processor gets on with these by itself: steps, and time that passes. -/
def isOwn : Event S ι → Bool
  | .pass _ => true
  | e => e.isStep

/-- With these another stop is called, or the one under way is given up. -/
def isForsaking : Event S ι → Bool
  | .stop | .giveUpStop => true
  | _ => false

theorem isForsaking_of_isOwn {e : Event S ι} (h : e.isOwn = true) : e.isForsaking = false := by
  cases e <;> first | rfl | cases h

theorem isOwn_of_isStep {e : Event S ι} (h : e.isStep = true) : e.isOwn = true := by
  cases e <;> first | rfl | cases h

end Event

namespace World

variable {op : Operation S (Item ι) σ α} {config : Config} {setting : Setting S} {w : World S ι σ α}
  {e : Event S ι} {events : List (Event S ι)}

/-! ## Stops under way -/

/-- A stop of a launched processor is under way. It waits for the worker, and then for the
reporter, whose scope has ended. -/
structure Underway (w : World S ι σ α) : Prop where
  stage : w.processor.stage = .released
  closing : w.processor.closing = true
  manned : w.processor.worker ≠ none
  awaits : w.stopping = some .worker ∨
    w.stopping = some .reporter ∧ w.processor.worker.all (·.isStopped) = true ∧
      w.setting.signals.isRaised w.processor.reporterScope.token = true

namespace Underway

theorem start (sound : Sound w.processor) (launched : w.processor.stage = .launched) : Underway w.stop := by
  have begun := w.processor.stopBegun w.setting
  have awaits := stop_awaits_iff.2 launched
  rw [← processor_stop] at begun
  refine ⟨?_, begun.closing, begun.worker ▸ sound.launched launched, .inl awaits⟩
  rw [begun.stage, launched]
  rfl

theorem awaitStop (h : Underway w) (sound : Sound w.processor) :
    Underway w.awaitStop ∨ w.awaitStop.stopping = none ∧ Spent w.awaitStop.processor := by
  rcases h.awaits with worker | ⟨reporter, stopped, raised⟩
  · by_cases stopped : w.processor.worker.all (·.isStopped) = true
    · have spent := sound.spent h.stage h.manned stopped
      have raised : (w.setting.signals.raise w.processor.reporterScope.token).isRaised
          w.processor.reporterScope.token = true :=
        (Signals.isRaised_raise _ _ _).2 (.inr List.mem_cons_self)
      simp only [World.awaitStop, worker, Option.bind_some, continueStop, stopped, if_true, releaseReporter]
      split
      · exact .inl ⟨h.stage, h.closing, h.manned, .inr ⟨rfl, stopped, raised⟩⟩
      · exact .inr ⟨rfl, spent.of_same rfl rfl rfl rfl⟩
    · left
      simp only [World.awaitStop, worker, Option.bind_some, continueStop, stopped]
      exact h
  · by_cases finished : w.processor.reporter.all (·.isFinished) = true
    · right
      simp only [World.awaitStop, reporter, Option.bind_some, continueStop, finished, if_true]
      exact ⟨rfl, sound.spent h.stage h.manned stopped⟩
    · left
      simp only [World.awaitStop, reporter, Option.bind_some, continueStop, finished]
      exact h

theorem work (h : Underway w) : Underway (w.work op) := by
  unfold World.work
  split
  · rename_i p s hs
    have hw := Worked.of_workerStep hs
    obtain ⟨-, stage, closing, -⟩ := hw.steady
    refine ⟨stage.trans h.stage, closing.trans h.closing, by cases hw <;> exact nofun, ?_⟩
    rcases h.awaits with worker | ⟨-, stopped, -⟩
    · exact .inl worker
    · rw [workerStep_of_all_isStopped stopped] at hs
      cases hs
  · exact h

/-- Anything but another stop leaves the stop under way, or lets it return. -/
theorem apply (h : Underway w) (sound : Sound w.processor) (lasts : e.Lasts w.setting.signals)
    (kept : e.isForsaking = false) :
    Underway (w.apply op e) ∨ (w.apply op e).stopping = none ∧ Spent (w.apply op e).processor := by
  by_cases looks : e = .awaitStop
  · rw [looks]
    exact h.awaitStop sound
  left
  cases he : e.isWork with
  | true =>
    rw [Event.eq_work he]
    exact h.work
  | false =>
    have unstopped : e ≠ .stop := fun same => by rw [same] at kept; cases kept
    have ungiven : e ≠ .giveUpStop := fun same => by rw [same] at kept; cases kept
    have worker : (w.apply op e).processor.worker = w.processor.worker := by
      refine (worker_apply op w he).2.resolve_right fun fresh => ?_
      rw [h.stage] at fresh
      cases fresh.1
    have stage : (w.apply op e).processor.stage = .released := by
      rw [(moves_apply e).1, h.stage]
      cases e <;> rfl
    refine ⟨stage, by rw [(steady_apply e).2, h.closing, Bool.true_or], worker ▸ h.manned, ?_⟩
    rw [stopping_apply op w e unstopped looks ungiven, worker, (reporter_apply op w e).1]
    rcases h.awaits with awaits | ⟨awaits, stopped, raised⟩
    · exact .inl awaits
    · exact .inr ⟨awaits, stopped, raised_apply he lasts raised⟩

theorem spent_of_returned (h : Underway w) (sound : Sound w.processor)
    (returned : w.awaitStop.stopping = none) : Spent w.awaitStop.processor := by
  rcases h.awaitStop sound with again | ⟨-, spent⟩
  · rcases again.awaits with awaits | ⟨awaits, -⟩ <;>
    · rw [returned] at awaits
      cases awaits
  · exact spent

theorem raised_of_reporter (h : Underway w) (awaits : w.stopping = some .reporter) :
    w.setting.signals.isRaised w.processor.reporterScope.token = true := by
  rcases h.awaits with worker | ⟨-, -, raised⟩
  · rw [awaits] at worker
    cases worker
  · exact raised

theorem not_awaits_of_stopped (h : Underway w) (stopped : w.processor.worker.all (·.isStopped) = true) :
    w.awaitStop.stopping ≠ some .worker := by
  intro awaits
  rcases h.awaits with worker | ⟨reporter, -, -⟩
  · simp only [World.awaitStop, worker, Option.bind_some, continueStop, stopped, if_true, releaseReporter] at awaits
    split at awaits <;> cases awaits
  · simp only [World.awaitStop, reporter, Option.bind_some, continueStop] at awaits
    split at awaits
    · rename_i hn
      split at hn <;> cases hn
      cases awaits
    · rw [reporter] at awaits
      cases awaits

/-- The clock moves on only while the worker is at an item. -/
theorem working_of_mayPass (h : Underway w) (own : Attended w.processor) {instant : Nat}
    (may : w.MayPass op instant) : ∃ order effort, w.processor.task? = some (.working order effort) := by
  have idle := may.stopping
  have unstopped : w.processor.worker.all (·.isStopped) ≠ true := by
    intro stopped
    rcases h.awaits with worker | ⟨reporter, -, raised⟩
    · rw [worker, Option.bind_some, continueStop, if_pos stopped] at idle
      cases idle
    · have finished := own.isFinished raised may.reporter
      rw [reporter, Option.bind_some, continueStop, if_pos finished] at idle
      cases idle
  rcases may.worker with none | ⟨order, effort, ht, -⟩
  · rcases waits_of_closing h.closing none with stopped | ⟨order, effort, drained, hw, -⟩
    · exact absurd stopped unstopped
    · exact ⟨order, effort, task?_of_worker hw⟩
  · exact ⟨order, effort, ht⟩

end Underway

/-! ## How long a stop takes -/

/-- The latest instant at which the item in work is recorded. -/
def nextRecord (w : World S ι σ α) : Nat :=
  match w.processor.task? with
  | some (.working order _) => Instant.tick (order.scope.deadline.getD w.now)
  | _ => w.now

/-- The latest instant at which the last of the admitted items is recorded, if the worker takes
one after the other. -/
def lastRecord (w : World S ι σ α) : Nat :=
  w.nextRecord + w.processor.input.length * w.processor.config.itemSpan

theorem nextRecord_of_task {order : Order ι} {effort : Effort σ α}
    (ht : w.processor.task? = some (.working order effort)) :
    w.nextRecord = Instant.tick (order.scope.deadline.getD w.now) := by
  simp only [nextRecord, ht]

/-- Admitted items that are not recorded yet. -/
def unrecorded (w : World S ι σ α) : Nat := w.books.admitted.length - w.books.recorded.length

theorem unrecorded_eq (booked : Booked w.processor w.books) :
    w.unrecorded = w.processor.inWork.length + w.processor.input.length := by
  rw [unrecorded, booked.items]
  simp only [List.length_append, List.length_map]
  omega

section

variable (timed : Timed w)

include timed

theorem now_le_nextRecord : w.now ≤ w.nextRecord := by
  unfold nextRecord
  split
  · rename_i order effort ht
    cases hd : order.scope.deadline with
    | none => exact Instant.le_tick w.now
    | some d => exact (timed.order order effort ht).within d hd
  · exact Nat.le_refl _

theorem now_le_lastRecord : w.now ≤ w.lastRecord :=
  Nat.le_trans (now_le_nextRecord timed) (Nat.le_add_right _ _)

theorem nextRecord_le_of_task {order : Order ι} {effort : Effort σ α}
    (ht : w.processor.task? = some (.working order effort)) :
    w.nextRecord ≤ w.now + w.processor.config.itemSpan := by
  have span : w.processor.config.itemSpan = w.processor.config.itemTimeout + 1000000 := rfl
  have clock := timed.order order effort ht
  have started := clock.started
  rw [nextRecord_of_task ht]
  cases hd : order.scope.deadline with
  | none =>
    have before := Instant.tick_lt w.now
    rw [Option.getD_none]
    omega
  | some d =>
    obtain ⟨due, -⟩ := Instant.after?_eq_some (clock.deadline ▸ hd)
    have before := Instant.tick_lt d
    rw [Option.getD_some]
    omega

/-- Each item that is not recorded yet takes its time. -/
theorem lastRecord_le : w.lastRecord ≤
    w.now + (w.processor.inWork.length + w.processor.input.length) * w.processor.config.itemSpan := by
  have next : w.nextRecord ≤ w.now + w.processor.inWork.length * w.processor.config.itemSpan := by
    cases ht : w.processor.task? with
    | none => simp only [nextRecord, ht, Nat.le_add_right]
    | some task =>
      cases task with
      | working order effort =>
        have le := nextRecord_le_of_task timed ht
        rw [inWork_of_task ht, Task.inWork, List.length_singleton, Nat.one_mul]
        exact le
      | starting | idle | delivering result | stopped => simp only [nextRecord, ht, Nat.le_add_right]
  rw [lastRecord, Nat.add_mul, ← Nat.add_assoc]
  exact Nat.add_le_add_right next _

/-- No step of the worker puts off the last record. -/
theorem lastRecord_work_le : (w.work op).lastRecord ≤ w.lastRecord := by
  have timed' : Timed (w.work op) := timed.apply (e := .work) trivial
  cases hs : w.processor.workerStep op w.now w.setting with
  | none =>
    simp only [work, hs]
    exact Nat.le_refl _
  | some r =>
    obtain ⟨p, s⟩ := r
    have next : w.work op = { w with
        processor := p, setting := s, books := w.books.watch w.processor p } := by rw [work, hs]
    rw [next] at timed' ⊢
    cases Worked.of_workerStep hs with
    | began worker | turned worker _ | halted worker _ | tried worker _ _ | delivered worker _
    | discarded worker _ _ =>
      simp only [lastRecord, nextRecord, task?_of_worker worker, task?_assign]
      exact Nat.le_refl _
    | @took drained item input worker hi opened =>
      -- The next item in the queue takes its time from now on.
      have le := nextRecord_le_of_task timed' (task?_assign _ _ _)
      have before : w.nextRecord = w.now := by simp only [nextRecord, task?_of_worker worker]
      rw [lastRecord, lastRecord, before, hi, List.length_cons, Nat.succ_mul,
        Nat.add_comm _ w.processor.config.itemSpan, ← Nat.add_assoc]
      exact Nat.add_le_add_right le _
    | @concluded drained order effort outcome worker came =>
      have ht := task?_of_worker worker
      have le := now_le_nextRecord timed
      rw [nextRecord_of_task ht] at le
      simp only [lastRecord, nextRecord, ht, conclude, task?_assign]
      exact Nat.add_le_add_right le _

end

theorem lastRecord_stop (launched : w.processor.stage = .launched) : w.stop.lastRecord = w.lastRecord := by
  have begun := w.processor.stopBegun w.setting
  rw [← processor_stop] at begun
  have now : w.stop.now = w.now := by rw [stop, now_proceedStop, giveUpStop]
  have task : w.stop.processor.task? = w.processor.task? := by rw [task?, begun.worker, task?]
  have input := begun.kept fun fresh => by rw [launched] at fresh; cases fresh
  simp only [lastRecord, nextRecord, task, input, now, begun.config]

/-- While a stop is under way, nothing puts off the last record. -/
theorem Underway.lastRecord_apply_le (h : Underway w) (timed : Timed w) (own : Attended w.processor)
    (allows : w.Allows op e) (dated : ∀ d, e = .pass d → w.Dated) :
    (w.apply op e).lastRecord ≤ w.lastRecord := by
  cases he : e.isWork with
  | true =>
    rw [Event.eq_work he]
    exact lastRecord_work_le timed
  | false =>
    have unfresh : w.processor.stage ≠ .fresh := by rw [h.stage]; exact nofun
    have worker := (worker_apply op w he).2.resolve_right fun fresh => unfresh fresh.1
    have input := (items_apply op h.closing he fun _ => unfresh).1
    have task : (w.apply op e).processor.task? = w.processor.task? := by rw [task?, worker, task?]
    have config : (w.apply op e).processor.config = w.processor.config := (steady_apply e).1
    refine Nat.le_of_eq ?_
    rw [lastRecord, lastRecord, input, config]
    congr 1
    by_cases passes : ∃ d, e = .pass d
    · obtain ⟨d, rfl⟩ := passes
      obtain ⟨order, effort, ht⟩ := h.working_of_mayPass own allows
      obtain ⟨due, hd⟩ := Option.ne_none_iff_exists'.1 (dated d rfl order effort ht)
      rw [nextRecord_of_task ht, nextRecord_of_task (task.trans ht), hd, Option.getD_some, Option.getD_some]
    · simp only [nextRecord, task, now_apply op w fun d hd => passes ⟨d, hd⟩]

/-- A stop that is still under way after a run without another stop has been so all the time. -/
theorem underway_append {more : List (Event S ι)}
    (prompt : (initial config setting).Prompt op (events ++ more))
    (kept : ∀ e ∈ more, e.isForsaking = false)
    (dated : ∀ first d rest, more = first ++ .pass d :: rest →
      (play op config setting (events ++ first)).Dated)
    (start : Underway (play op config setting events))
    (still : (play op config setting (events ++ more)).stopping ≠ none) :
    Underway (play op config setting (events ++ more)) ∧
      (play op config setting (events ++ more)).lastRecord ≤ (play op config setting events).lastRecord := by
  induction more using List.reverseRecOn with
  | nil =>
    rw [List.append_nil]
    exact ⟨start, Nat.le_refl _⟩
  | append_singleton more e ih =>
    rw [← List.append_assoc] at prompt still ⊢
    obtain ⟨before, allows⟩ := prompt_concat.1 prompt
    have last : e.isForsaking = false := kept e (List.mem_append_right _ List.mem_cons_self)
    rw [play_concat] at still ⊢
    have unstopped : e ≠ .stop := fun same => by rw [same] at last; cases last
    obtain ⟨underway, le⟩ := ih before (fun e he => kept e (List.mem_append_left _ he))
      (fun first d rest hm => dated first d (rest ++ [e]) (by rw [hm, List.append_assoc, List.cons_append]))
      fun none => still (stopping_eq_none_apply op unstopped none)
    have sound := (orderly_play op config setting (events ++ more)).sound
    have own := attended_play op config setting (events ++ more)
    have later := underway.lastRecord_apply_le (.play before) own allows
      fun d hd => dated more d [] (by rw [hd])
    refine ⟨?_, Nat.le_trans later le⟩
    exact (underway.apply sound allows.lasts last).resolve_right fun returned => still returned.1

/-! ## Stops return -/

theorem prompt_of_isStep {steps : List (Event S ι)} (h : ∀ e ∈ steps, e.isStep = true) :
    w.Prompt op steps := by
  induction steps generalizing w with
  | nil => trivial
  | cons e steps ih =>
    refine ⟨?_, ih fun e he => h e (List.mem_cons_of_mem _ he)⟩
    have step := h e List.mem_cons_self
    cases e with
    | work | report | awaitStop => trivial
    | _ => cases step

theorem now_of_isStep {steps : List (Event S ι)} (h : ∀ e ∈ steps, e.isStep = true) :
    (play op config setting (events ++ steps)).now = (play op config setting events).now := by
  induction steps using List.reverseRecOn with
  | nil => rw [List.append_nil]
  | append_singleton steps e ih =>
    have step := h e (List.mem_append_right _ List.mem_cons_self)
    rw [← List.append_assoc, play_concat, now_apply op _ fun d hd => by rw [hd] at step; cases step]
    exact ih fun e he => h e (List.mem_append_left _ he)

/-- A stop that waits for the reporter returns after a few steps. -/
theorem exists_returned_of_reporter (underway : Underway (play op config setting events))
    (awaits : (play op config setting events).stopping = some .reporter) :
    ∃ k, (play op config setting (events ++ (List.replicate k .report ++ [.awaitStop]))).stopping = none := by
  obtain ⟨k, reporter, s, reached, same, rests⟩ := exists_reported op config setting events
  have own := attended_play op config setting (events ++ List.replicate k .report)
  rw [reached] at own
  have raised := underway.raised_of_reporter awaits
  rw [← same] at raised
  have finished : reporter.all (·.isFinished) = true := own.isFinished raised rests
  refine ⟨k, ?_⟩
  rw [← List.append_assoc, play_concat, reached]
  simp only [apply, awaitStop, awaits, Option.bind_some, continueStop, finished, if_true, proceedStop]

theorem exists_returned_of_stopped (underway : Underway (play op config setting events))
    (stopped : (play op config setting events).processor.worker.all (·.isStopped) = true) :
    ∃ steps : List (Event S ι), (∀ e ∈ steps, e.isStep = true) ∧
      (play op config setting (events ++ steps)).stopping = none := by
  have next : play op config setting (events ++ [.awaitStop]) = (play op config setting events).awaitStop :=
    play_concat op config setting events .awaitStop
  rcases underway.awaitStop (orderly_play op config setting events).sound with again | ⟨returned, -⟩
  · have awaits := again.awaits.resolve_left (underway.not_awaits_of_stopped stopped)
    rw [← next] at again awaits
    obtain ⟨k, returned⟩ := exists_returned_of_reporter again awaits.1
    rw [List.append_assoc] at returned
    refine ⟨[.awaitStop] ++ (List.replicate k .report ++ [.awaitStop]), ?_, returned⟩
    simp only [List.mem_append, List.mem_replicate, List.mem_singleton]
    rintro e (rfl | ⟨-, rfl⟩ | rfl) <;> rfl
  · refine ⟨[.awaitStop], ?_, by rw [next]; exact returned⟩
    simp only [List.mem_singleton]
    rintro e rfl
    rfl

/-- While the worker rests without having stopped, the clock may go on once the reporter rests too. -/
theorem exists_mayPass_of_rests (underway : Underway (play op config setting events))
    (going : (play op config setting events).processor.worker.all (·.isStopped) ≠ true)
    (rests : (play op config setting events).processor.workerStep op (play op config setting events).now
        (play op config setting events).setting = none ∨
      Calling (play op config setting events).processor (play op config setting events).setting
        (play op config setting events).now) :
    ∃ k, (play op config setting (events ++ List.replicate k .report)).MayPass op
      (Instant.tick ((play op config setting events).now + 1)) := by
  obtain ⟨k, reporter, s, reached, same, reported⟩ := exists_reported op config setting events
  have awaits : (play op config setting events).stopping = some .worker :=
    underway.awaits.resolve_right fun reporter => going reporter.2.1
  refine ⟨k, ?_⟩
  rw [reached]
  refine ⟨rests_congr underway.closing same reporter rests, reported, ?_, fun due _ later => ?_⟩
  · rw [awaits, Option.bind_some, continueStop, if_neg going]
  · exact Instant.tick_le_tick later

/-- Nothing holds a stop up: after a few steps it has returned, or the clock may go on. -/
theorem exists_settled (waits : ∀ policy ∈ config.policy, policy.Waits)
    (underway : Underway (play op config setting events)) :
    ∃ steps : List (Event S ι), (∀ e ∈ steps, e.isStep = true) ∧
      ((play op config setting (events ++ steps)).stopping = none ∨
        (play op config setting (events ++ steps)).MayPass op
          (Instant.tick ((play op config setting events).now + 1))) := by
  obtain ⟨k, rests⟩ := exists_rest op setting waits underway.closing
  have works : ∀ e ∈ List.replicate k (.work : Event S ι), e.isStep = true := fun e he => by
    rw [List.eq_of_mem_replicate he]
    rfl
  have now : (play op config setting (events ++ List.replicate k .work)).now =
      (play op config setting events).now := now_of_isStep works
  have underway : Underway (play op config setting (events ++ List.replicate k .work)) := by
    clear rests works now
    induction k with
    | zero =>
      rw [List.replicate_zero, List.append_nil]
      exact underway
    | succ k ih =>
      rw [List.replicate_succ', ← List.append_assoc, play_concat]
      exact ih.work
  by_cases stopped : (play op config setting (events ++ List.replicate k .work)).processor.worker.all
      (·.isStopped) = true
  · obtain ⟨steps, own, returned⟩ := exists_returned_of_stopped underway stopped
    rw [List.append_assoc] at returned
    refine ⟨List.replicate k .work ++ steps, fun e he => ?_, .inl returned⟩
    exact (List.mem_append.1 he).elim (works e) (own e)
  · obtain ⟨n, may⟩ := exists_mayPass_of_rests underway stopped rests
    refine ⟨List.replicate k .work ++ List.replicate n .report, fun e he => ?_, .inr ?_⟩
    · rcases List.mem_append.1 he with he | he
      · exact works e he
      · rw [List.eq_of_mem_replicate he]
        rfl
    · rw [← List.append_assoc, ← now]
      exact may

/-- The clock goes on to the next whole millisecond. The last record is not put off. -/
theorem exists_later (prompt : (initial config setting).Prompt op events)
    (underway : Underway (play op config setting events)) (dated : (play op config setting events).Dated)
    (may : (play op config setting events).MayPass op
      (Instant.tick ((play op config setting events).now + 1))) :
    ∃ d, (initial config setting).Prompt op (events ++ [.pass d]) ∧
      Underway (play op config setting (events ++ [.pass d])) ∧
      (play op config setting events).now < (play op config setting (events ++ [.pass d])).now ∧
      (play op config setting (events ++ [.pass d])).lastRecord ≤
        (play op config setting events).lastRecord := by
  have later := Instant.le_tick ((play op config setting events).now + 1)
  obtain ⟨d, hd⟩ := Nat.exists_eq_add_of_le (Nat.le_of_succ_le later)
  have allows : (play op config setting events).Allows op (.pass d) := by
    rw [Allows, ← hd]
    exact may
  have next := play_concat op config setting events (.pass d)
  refine ⟨d, prompt_concat.2 ⟨prompt, allows⟩, ?_, ?_, ?_⟩
  · rw [next]
    exact ⟨underway.stage, underway.closing, underway.manned, underway.awaits⟩
  · have passed : (play op config setting (events ++ [.pass d])).now =
        (play op config setting events).now + d := by
      rw [next]
      rfl
    omega
  · rw [next]
    exact underway.lastRecord_apply_le (.play prompt) (attended_play op config setting events) allows
      fun _ _ => dated

/-- **A stop returns.** The worker, the reporter and the stop itself get there by themselves, unless
an item is begun whose deadline the clock does not reach. -/
theorem exists_returned (waits : ∀ policy ∈ config.policy, policy.Waits)
    (prompt : (initial config setting).Prompt op events)
    (underway : Underway (play op config setting events)) :
    ∃ later : List (Event S ι), (∀ e ∈ later, e.isOwn = true) ∧
      (initial config setting).Prompt op (events ++ later) ∧
      ((play op config setting (events ++ later)).stopping = none ∨
        ¬ (play op config setting (events ++ later)).Dated) := by
  -- By induction on the time that is left.
  induction left : (play op config setting events).lastRecord - (play op config setting events).now
    using Nat.strong_induction_on generalizing events with
  | _ left ih =>
  subst left
  obtain ⟨steps, own, settled⟩ := exists_settled waits underway
  have prompt' : (initial config setting).Prompt op (events ++ steps) :=
    prompt_append.2 ⟨prompt, prompt_of_isStep own⟩
  have ownly : ∀ e ∈ steps, e.isOwn = true := fun e he => Event.isOwn_of_isStep (own e he)
  by_cases returned : (play op config setting (events ++ steps)).stopping = none
  · exact ⟨steps, ownly, prompt', .inl returned⟩
  by_cases dated : (play op config setting (events ++ steps)).Dated
  · obtain ⟨underway', le⟩ := underway_append prompt' (fun e he => Event.isForsaking_of_isOwn (ownly e he))
      (fun first d rest hm => by cases own (.pass d) (by rw [hm]; simp)) underway returned
    have now : (play op config setting (events ++ steps)).now = (play op config setting events).now :=
      now_of_isStep own
    rw [← now] at settled
    obtain ⟨d, prompt'', underway'', later, le'⟩ :=
      exists_later prompt' underway' dated (settled.resolve_left returned)
    have within := now_le_lastRecord (Timed.play prompt'')
    obtain ⟨rest, own', prompt, reached⟩ := ih _ (by omega) prompt'' underway'' rfl
    rw [List.append_assoc, List.append_assoc] at prompt reached
    refine ⟨steps ++ ([.pass d] ++ rest), fun e he => ?_, prompt, reached⟩
    rcases List.mem_append.1 he with he | he
    · exact ownly e he
    · rcases List.mem_cons.1 he with rfl | he
      · rfl
      · exact own' e he
  · exact ⟨steps, ownly, prompt', .inr dated⟩

/-! ## What a stop leaves in the output queue -/

theorem results_of_ne_gone {p : Processor ι σ α} (there : p.reader ≠ .gone) :
    p.results.2 = { p with reader := .claimed } := by
  obtain ⟨config, lifetime, stage, closing, input, output, reader⟩ := p
  cases reader with
  | unclaimed | claimed => rfl
  | gone => exact absurd rfl there

theorem output_apply_of_spent (op : Operation S (Item ι) σ α) (h : Spent w.processor)
    (empty : w.processor.output = []) (e : Event S ι) : (w.apply op e).processor.output = [] := by
  have fewer := (rests_apply op h e).output
  rw [empty] at fewer
  exact List.suffix_nil.1 fewer

theorem dry_of_spent (h : Spent (play op config setting events).processor)
    (empty : (play op config setting events).processor.output = []) (later : List (Event S ι)) :
    (play op config setting (events ++ later)).processor.output = [] := by
  induction later using List.reverseRecOn with
  | nil => rwa [List.append_nil]
  | append_singleton later e ih =>
    rw [← List.append_assoc, play_concat]
    exact output_apply_of_spent op (delivered_of_spent h later).1 ih e

theorem read_replicate (op : Operation S (Item ι) σ α) (claimed : w.processor.reader = .claimed) :
    ((List.replicate w.processor.output.length .read).foldl (apply op) w).books.received =
        w.books.received ++ w.processor.output ∧
      ((List.replicate w.processor.output.length .read).foldl (apply op) w).processor.output = [] := by
  induction ho : w.processor.output generalizing w with
  | nil => exact ⟨(List.append_nil _).symm, ho⟩
  | cons r output ih =>
    have next : w.apply op .read = { w with
        processor := { w.processor with output := output }
        books := { w.books with received := w.books.received ++ [r] } } := by
      simp only [apply, read, claimed, if_true, Processor.read, ho]
    rw [List.length_cons, List.replicate_succ, List.foldl_cons, next]
    obtain ⟨received, empty⟩ := ih (w := { w with
      processor := { w.processor with output := output }
      books := { w.books with received := w.books.received ++ [r] } }) claimed rfl
    exact ⟨by rw [received, List.append_assoc, List.singleton_append], empty⟩

/-- What a stop leaves behind when it returns. -/
structure Shut (op : Operation S (Item ι) σ α) (config : Config) (setting : Setting S)
    (events : List (Event S ι)) : Prop where
  /-- The worker is gone, and nothing waits for it. -/
  final : Final op config setting events
  /-- The output queue is closed for good. -/
  closed : ∀ later, (play op config setting (events ++ later)).processor.isFinal = true
  /-- Whoever has the reading end, or asks for it now, can read all delivered results, and then
  nothing more is ever read. -/
  yields : (play op config setting events).processor.reader ≠ .gone →
    let reads : List (Event S ι) :=
      .results :: List.replicate (play op config setting events).processor.output.length .read
    (play op config setting (events ++ reads)).books.received =
        (play op config setting events).books.delivered ∧
      ∀ later, (play op config setting (events ++ reads ++ later)).processor.read = none

theorem shut_of_spent (h : Spent (play op config setting events).processor) :
    Shut op config setting events where
  final := final_of_spent h
  closed later := by
    have spent := (delivered_of_spent h later).1
    rw [isFinal, spent.stage, spent.worker]
    rfl
  yields there := by
    intro reads
    have booked := booked_play op config setting events
    have asked : play op config setting (events ++ [.results]) = { play op config setting events with
        processor := { (play op config setting events).processor with reader := .claimed } } := by
      rw [play_concat, apply, results_of_ne_gone there]
    have split : play op config setting (events ++ reads) =
        (List.replicate (play op config setting events).processor.output.length .read).foldl (apply op)
          (play op config setting (events ++ [.results])) := by
      rw [← play_append, List.append_assoc, List.singleton_append]
    obtain ⟨received, empty⟩ := read_replicate op (w := play op config setting (events ++ [.results]))
      (by rw [asked])
    rw [asked] at split received empty
    rw [split]
    refine ⟨?_, fun later => ?_⟩
    · rw [received, booked.delivered, booked.kept there, List.append_nil]
    · have spent := (delivered_of_spent h reads).1
      have dry := dry_of_spent spent (by rw [split]; exact empty) later
      rw [Processor.read, dry]

/-! ## Every run -/

/-- What holds after `events` in a world `w`, if a stop of a launched processor was called in the
world `w₀`, no other since, and it was not given up. -/
structure EndsInTime (op : Operation S (Item ι) σ α) (config : Config) (setting : Setting S)
    (events : List (Event S ι)) (w₀ w : World S ι σ α) : Prop where
  /-- While the stop is under way, the time for the items that were not recorded when it was called
  is not up. Without any such item no time passes. -/
  underway : w.stopping ≠ none → w.now ≤ w₀.now + w₀.unrecorded * config.itemSpan
  /-- The processor gets by itself to where the stop returns, unless it begins an item whose
  deadline the clock does not reach. -/
  comes : w.stopping ≠ none → ∃ later : List (Event S ι), (∀ e ∈ later, e.isOwn = true) ∧
    w.Prompt op later ∧
      ((later.foldl (apply op) w).stopping = none ∨ ¬ (later.foldl (apply op) w).Dated)
  /-- When it returns, the time is not up, and the output queue is closed. -/
  returned : Returns w .awaitStop (w.apply op .awaitStop) →
    (w.apply op .awaitStop).now ≤ w₀.now + w₀.unrecorded * config.itemSpan ∧
      Shut op config setting (events ++ [.awaitStop])

/-- What holds of items and stops in a run. -/
structure Punctual (op : Operation S (Item ι) σ α) (config : Config) (setting : Setting S)
    (events : List (Event S ι)) : Prop where
  elapsed : ∀ r ∈ (play op config setting events).books.recorded, r.2.elapsed < config.itemSpan
  stops : ∀ before after, events = before ++ .stop :: after →
    (play op config setting before).processor.stage = .launched → (∀ e ∈ after, e.isForsaking = false) →
    EndsInTime op config setting events (play op config setting before) (play op config setting events)

theorem underway_play {before after : List (Event S ι)}
    (prompt : (initial config setting).Prompt op (before ++ .stop :: after))
    (dated : AllDated op config setting (before ++ .stop :: after))
    (launched : (play op config setting before).processor.stage = .launched)
    (kept : ∀ e ∈ after, e.isForsaking = false)
    (still : (play op config setting (before ++ .stop :: after)).stopping ≠ none) :
    Underway (play op config setting (before ++ .stop :: after)) ∧
      (play op config setting (before ++ .stop :: after)).now ≤ (play op config setting before).now +
        (play op config setting before).unrecorded * config.itemSpan := by
  obtain ⟨prompt₀, -⟩ := prompt_append.1 prompt
  rw [List.append_cons] at prompt dated still ⊢
  have next := play_concat op config setting before .stop
  have sound := (orderly_play op config setting before).sound
  obtain ⟨underway, le⟩ := underway_append prompt kept
    (fun first d rest ha => dated _ (by rw [ha, ← List.append_assoc]; exact List.prefix_append _ _))
    (by rw [next]; exact .start sound launched) still
  have span := lastRecord_le (Timed.play prompt₀)
  rw [config_play, ← unrecorded_eq (booked_play op config setting before)] at span
  rw [next, apply, lastRecord_stop launched] at le
  exact ⟨underway, Nat.le_trans (now_le_lastRecord (.play prompt)) (Nat.le_trans le span)⟩

/-- **Items and stops take no longer than they may.** Whatever the operation does, and whether or
not anybody reads the results. -/
theorem play_punctual (op : Operation S (Item ι) σ α) (config : Config) (setting : Setting S)
    (events : List (Event S ι)) (waits : ∀ policy ∈ config.policy, policy.Waits)
    (prompt : (initial config setting).Prompt op events) (dated : AllDated op config setting events) :
    Punctual op config setting events := by
  refine ⟨elapsed_lt prompt dated, fun before after he launched kept => ?_⟩
  have still (h : (play op config setting events).stopping ≠ none) :
      Underway (play op config setting events) ∧
        (play op config setting events).now ≤ (play op config setting before).now +
          (play op config setting before).unrecorded * config.itemSpan := by
    subst he
    exact underway_play prompt dated launched kept h
  refine ⟨fun h => (still h).2, fun h => ?_, fun returns => ?_⟩
  · obtain ⟨later, own, prompt', reached⟩ := exists_returned waits prompt (still h).1
    rw [play_append] at reached
    exact ⟨later, own, (prompt_append.1 prompt').2, reached⟩
  · obtain ⟨underway, le⟩ := still (returns.called.resolve_left nofun).2
    have spent := underway.spent_of_returned (orderly_play op config setting events).sound returns.finished
    refine ⟨by rw [now_apply op _ fun d hd => by cases hd]; exact le, shut_of_spent ?_⟩
    rw [play_concat]
    exact spent

/-- Nobody reads the result of the first item, and nobody takes it from the queue. The second item
is tried again and again when the stop is called, and the third hangs. -/
theorem unread_stop_returns :
    let op : Operation Unit (Item Nat) (Scope × Activity Nat) Nat :=
      .scripted
        (fun item _ =>
          if item.payload = 1 then .finish (.value 7)
          else if item.payload = 2 then .finish (.failure (.plain "connection reset"))
          else .hang)
        (fun _ _ s => s) (fun _ s => s)
    let policy : Retry.Policy := .new 60000000000 2000000 2000000 0
    let config : Config := ⟨1, 5500000, some policy, [], none, by decide, by decide, by decide, nofun⟩
    let before : List (Event Unit Nat) :=
      [.submit "a" 1, .start, .work, .work, .work, .work, .work, .submit "b" 2, .work, .work,
        .pass 2000000, .work, .work, .submit "c" 3]
    let after : List (Event Unit Nat) :=
      [.pass 2000000, .work, .work, .pass 2000000, .work, .work, .work, .work, .work, .work,
        .pass 6000000, .work, .work, .work, .work, .awaitStop]
    let run := play op config ⟨.empty, [], ()⟩
    Punctual op config ⟨.empty, [], ()⟩ (before ++ .stop :: after) ∧
      (run before).processor.stage = .launched ∧ (run before).now = 2000000 ∧ (run before).unrecorded = 2 ∧
      (run (before ++ .stop :: after)).stopped = true ∧ (run (before ++ .stop :: after)).now = 12000000 ∧
      (run (before ++ .stop :: after)).books.recorded.map (fun r => (r.1.id, r.2.elapsed)) =
        [("a", 0), ("b", 6000000), ("c", 6000000)] ∧
      (run (before ++ .stop :: after ++ [.results, .read])).books.received.map (·.id) = ["a"] := by
  intro op policy config before after run
  have waits : ∀ p ∈ config.policy, p.Waits := fun p hp => by
    cases hp
    exact .inl (by decide)
  have prompt : (initial config ⟨.empty, [], ()⟩).Prompt op (before ++ .stop :: after) := by
    refine ⟨trivial, trivial, trivial, trivial, trivial, trivial, trivial, trivial, trivial, trivial,
      ⟨.inl ?_, ?_, ?_, by decide +kernel⟩, trivial, trivial, trivial, trivial,
      ⟨.inl ?_, ?_, ?_, by decide +kernel⟩, trivial, trivial,
      ⟨.inl ?_, ?_, ?_, by decide +kernel⟩, trivial, trivial, trivial, trivial, trivial, trivial,
      ⟨.inl ?_, ?_, ?_, by decide +kernel⟩, trivial, trivial, trivial, trivial, trivial, trivial⟩ <;>
      exact Option.isNone_iff_eq_none.1 (by decide +kernel)
  have dated : ∀ first ∈ (before ++ .stop :: after).inits, (run first).Dated := by decide +kernel
  exact ⟨play_punctual op config _ _ waits prompt fun first hf => dated first ((List.mem_inits _ _).2 hf),
    by decide +kernel, by decide +kernel, by decide +kernel, by decide +kernel, by decide +kernel,
    by decide +kernel, by decide +kernel⟩

end World

end CallGuard.Processor
