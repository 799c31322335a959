/-
The time for an item against its retry budget. A budget that is no shorter is never spent: both
begin with the work on the item, and where both are over the end of the item's scope outranks
that of the budget, however they are rounded. So work ends with what its last call returned, or
with the bare end of the scope, in the millisecond of its deadline or when it is cancelled.
-/
import CallGuard.Proofs.Processor.Endings
import CallGuard.Proofs.Processor.Isolation

namespace CallGuard

namespace Processor

variable {S ι σ α : Type}

/-! ## Why work ends -/

namespace Ending

variable {config : Config} {last : Option (Attempt ι α)} {e : Ending ι α}

/-- No budget is spent before the scope has ended, if it is no shorter than the time for the item. -/
theorem Cause.plain_of_covered (h : e.Cause config last)
    (covered : ∀ policy ∈ config.policy, config.itemTimeout ≤ policy.budget)
    (deadline : e.order.scope.deadline = Instant.after? e.order.started config.itemTimeout) :
    e.Plain config last := by
  cases h with
  | plain plain => exact plain
  | exhausted going _ _ _ hp hb spent _ =>
    obtain ⟨d, hd, le⟩ := Instant.after?_of_le (Nat.add_le_add_left (covered _ hp) _) hb
    have ahead : e.instant < d := Scope.lt_of_ended?_eq_none going (deadline.trans hd)
    exact absurd (Nat.le_trans le spent) (Nat.not_le_of_lt ahead)

/-- Under a policy, a failure that is not final is the bare end of the scope. -/
theorem Plain.bare (h : e.Plain config last) {policy : Retry.Policy} (hp : config.policy = some policy)
    {f : Failure} (failed : resultOf e.outcome = .error f)
    (again : Retry.isFinal config.patterns f = false) :
    ∃ reason, e.scopeEnd = some reason ∧ e.outcome = .failure (.scope reason) := by
  cases h with
  | cut ended same => exact ⟨_, ended, same⟩
  | @returned t outcome _ _ _ settles same =>
    rw [same] at failed
    have final : Retry.isFinal config.patterns f = true := by
      cases outcome with
      | value a => cases failed
      | failure g | panic message =>
        cases failed
        simpa only [Outcome.tamed, Config.settles, hp, Option.isNone_some, Bool.false_or] using settles
    rw [final] at again
    cases again

theorem raised_of_cancelled {lifetime : Token} (cancelled : e.scopeEnd = some .cancelled)
    (above : e.order.scope.token.ancestors = lifetime.id :: lifetime.ancestors) :
    e.order.scope.token.id ∈ e.signals.raised ∨ e.signals.isRaised lifetime = true := by
  cases Scope.ended?_eq_some_iff.1 cancelled with
  | cancelled raised =>
    obtain ⟨a, ha, hr⟩ := Signals.isRaised_iff.1 raised
    rw [above] at ha
    rcases List.mem_cons.1 ha with rfl | ha
    · exact .inl hr
    · exact .inr (Signals.isRaised_iff.2 ⟨a, ha, hr⟩)

end Ending

/-! ## When work ends -/

namespace World

variable {op : Operation S (Item ι) σ α} {config : Config} {setting : Setting S} {w : World S ι σ α}
  {e : Event S ι} {events : List (Event S ι)}

/-- The deadline of the item in work. -/
def deadline? (w : World S ι σ α) : Option Nat :=
  match w.processor.task? with
  | some (.working order _) => order.scope.deadline
  | _ => none

/-- If time passes, the clock does not stop between the deadline of the item in work and the
millisecond in which its timer fires. -/
def KeepsTimer (w : World S ι σ α) : Event S ι → Prop
  | .pass d => ∀ due ∈ w.deadline?, due ≤ w.now + d → Instant.tick due ≤ w.now + d
  | _ => True

instance (w : World S ι σ α) (e : Event S ι) : Decidable (w.KeepsTimer e) := by
  unfold KeepsTimer
  cases e <;> infer_instance

/-- No item finds its deadline passed before its timer fires. -/
def OnTimers (op : Operation S (Item ι) σ α) : World S ι σ α → List (Event S ι) → Prop
  | _, [] => True
  | w, e :: events => w.KeepsTimer e ∧ OnTimers op (w.apply op e) events

theorem onTimers_concat : (initial config setting).OnTimers op (events ++ [e]) ↔
    (initial config setting).OnTimers op events ∧ (play op config setting events).KeepsTimer e := by
  have append (w : World S ι σ α) : w.OnTimers op (events ++ [e]) ↔
      w.OnTimers op events ∧ (events.foldl (apply op) w).KeepsTimer e := by
    induction events generalizing w with
    | nil => exact ⟨fun h => ⟨trivial, h.1⟩, fun h => ⟨h.2, trivial⟩⟩
    | cons e' events ih =>
      rw [List.cons_append, OnTimers, OnTimers, ih, and_assoc]
      rfl
  exact append _

theorem onTimers_of_whole (start : w.now % 1000000 = 0) (whole : ∀ d, .pass d ∈ events → d % 1000000 = 0) :
    w.OnTimers op events := by
  induction events generalizing w with
  | nil => trivial
  | cons e events ih =>
    have rest (d : Nat) (hd : .pass d ∈ events) : d % 1000000 = 0 := whole d (List.mem_cons_of_mem _ hd)
    by_cases passes : ∃ d, e = .pass d
    · obtain ⟨d, rfl⟩ := passes
      have there : (w.now + d) % 1000000 = 0 := by
        have := whole d List.mem_cons_self
        omega
      refine ⟨fun due _ reached => ?_, ih there rest⟩
      unfold Instant.tick
      omega
    · have now := now_apply op w fun d hd => passes ⟨d, hd⟩
      refine ⟨?_, ih (now ▸ start) rest⟩
      cases e with
      | pass d => exact absurd ⟨d, rfl⟩ passes
      | _ => trivial

/-- The deadline of the item in work is still to come, or its timer fires just now. -/
theorem onTime_play (prompt : (initial config setting).Prompt op events)
    (timers : (initial config setting).OnTimers op events) {order : Order ι} {effort : Effort σ α}
    (ht : (play op config setting events).processor.task? = some (.working order effort)) {d : Nat}
    (hd : order.scope.deadline = some d) : (play op config setting events).now < d ∨
      (play op config setting events).now = Instant.tick d := by
  induction events using List.reverseRecOn generalizing effort with
  | nil => cases ht
  | append_singleton events e ih =>
    obtain ⟨prompt, allows⟩ := prompt_concat.1 prompt
    obtain ⟨timers, keeps⟩ := onTimers_concat.1 timers
    rw [play_concat] at ht ⊢
    rcases order_apply ht with ⟨effort', before, -⟩ | ⟨he, ⟨item, rfl⟩, -⟩
    · by_cases passes : ∃ span, e = .pass span
      · obtain ⟨span, rfl⟩ := passes
        have within : (play op config setting events).now + span ≤ Instant.tick d :=
          MayPass.within allows before hd
        have due : (play op config setting events).deadline? = some d := by
          simp only [deadline?, before, hd]
        by_cases short : (play op config setting events).now + span < d
        · exact .inl short
        · exact .inr (Nat.le_antisymm within (keeps d due (Nat.le_of_not_lt short)))
      · rw [now_apply op _ fun span hs => passes ⟨span, hs⟩]
        exact ih prompt timers before
    · cases Event.eq_work he
      have made := ((Planned.play op config setting events).apply op .work).order _ _ ht
      obtain ⟨rfl, -⟩ := Instant.after?_eq_some (made.deadline.symm.trans hd)
      rw [now_apply op _ fun span hs => by cases hs]
      exact .inl (Nat.lt_add_of_pos_right (Config.itemTimeout_pos _))

end World

/-! ## All work ends plainly -/

/-- When work ends that was begun at some instant. -/
structure Ending.Timely (config : Config) (e : Ending ι α) : Prop where
  /-- With its deadline, once that has passed, and no later than its timer fires. -/
  deadline : e.scopeEnd = some .deadlineExceeded →
    ∃ d, Instant.after? e.order.started config.itemTimeout = some d ∧ d ≤ e.instant ∧
      e.instant ≤ Instant.tick d
  /-- In any other way no later, and before its deadline if its scope has not ended. -/
  within : ∀ d, Instant.after? e.order.started config.itemTimeout = some d →
    e.instant ≤ Instant.tick d ∧ (e.scopeEnd = none → e.instant < d)

/-- How the work on an item ends after a run `before`. -/
structure Ending.Dominated (op : Operation S (Item ι) σ α) (config : Config) (setting : Setting S)
    (before : List (Event S ι)) (e : Ending ι α) : Prop where
  found : (World.play op config setting before).ending? op .work = some e
  /-- With the end of its scope, or with what the latest call returned just now. -/
  plain : e.Plain config (latest (World.attempts op config setting (before ++ [.work]))
    (World.play op config setting before).books.recorded.length)
  /-- If it fails under a policy and the failure is not final, it fails with the bare end of its
  scope. -/
  bare : ∀ policy ∈ config.policy, ∀ f, resultOf e.outcome = .error f →
    Retry.isFinal config.patterns f = false →
    ∃ reason, e.scopeEnd = some reason ∧ e.outcome = .failure (.scope reason)
  cancelled : e.scopeEnd = some .cancelled → e.order.scope.token.id ∈ e.signals.raised ∨
    e.signals.isRaised (World.play op config setting before).processor.lifetime.token = true
  /-- Only an abort cancels all work, if nobody else has a hold on it. -/
  aborted : op.Confined → setting.signals.Proper → World.Secluded op config setting before →
    e.signals.isRaised (World.play op config setting before).processor.lifetime.token = true →
    .abort ∈ before
  timely : (World.initial config setting).Prompt op before → e.Timely config
  /-- Its deadline ends it in the millisecond of its timer, if the clock stops nowhere before. -/
  onTimer : (World.initial config setting).Prompt op before →
    (World.initial config setting).OnTimers op before → e.scopeEnd = some .deadlineExceeded →
    ∃ d, Instant.after? e.order.started config.itemTimeout = some d ∧ e.instant = Instant.tick d

/-- What holds of a run if the time for an item dominates its retry budget. -/
structure Dominated (op : Operation S (Item ι) σ α) (config : Config) (setting : Setting S)
    (events : List (Event S ι)) : Prop where
  ends : ∀ e ∈ (World.initial config setting).endings op events, ∃ before after,
    events = before ++ .work :: after ∧ e.Dominated op config setting before
  /-- What is recorded of an item is what the work on it ended with, unless there was no worker, -/
  results : ∀ r ∈ (World.play op config setting events).books.recorded, r.2.outcome = .error .notStarted ∨
    ∃ e ∈ (World.initial config setting).endings op events, answerOf e.record = answerOf r
  /-- with the time that it took. -/
  elapsed : (World.initial config setting).Prompt op events →
    ∀ r ∈ (World.play op config setting events).books.recorded, r.2.outcome = .error .notStarted ∨
      ∃ e ∈ (World.initial config setting).endings op events, e.record = r
  /-- No work goes on beyond the deadline. -/
  inWork : (World.initial config setting).Prompt op events → ∀ order effort,
    (World.play op config setting events).processor.task? = some (.working order effort) →
    ∀ d, Instant.after? order.started config.itemTimeout = some d →
      (World.play op config setting events).now ≤ Instant.tick d

namespace World

variable {op : Operation S (Item ι) σ α} {config : Config} {setting : Setting S}
  {events : List (Event S ι)} {ending : Ending ι α}

theorem timely_of_ending? (prompt : (initial config setting).Prompt op events)
    (h : (play op config setting events).ending? op .work = some ending) : ending.Timely config := by
  obtain ⟨effort, effort', s, drained, last⟩ := lastStep_of_ending? h
  have deadline := deadline_of_ending? h
  have within {d : Nat} (hd : ending.order.scope.deadline = some d) : ending.instant ≤ Instant.tick d :=
    last.instant ▸ ((Timed.play prompt).order _ _ (task?_of_worker last.worker)).within d hd
  constructor
  · intro ended
    cases Scope.ended?_eq_some_iff.1 ended with
    | @deadline d _ hd reached => exact ⟨d, deadline.symm.trans hd, reached, within hd⟩
  · intro d hd
    have hd := deadline.trans hd
    exact ⟨within hd, fun going => Scope.lt_of_ended?_eq_none going hd⟩

theorem onTimer_of_ending? (prompt : (initial config setting).Prompt op events)
    (timers : (initial config setting).OnTimers op events)
    (h : (play op config setting events).ending? op .work = some ending)
    (ended : ending.scopeEnd = some .deadlineExceeded) :
    ∃ d, Instant.after? ending.order.started config.itemTimeout = some d ∧
      ending.instant = Instant.tick d := by
  obtain ⟨effort, effort', s, drained, last⟩ := lastStep_of_ending? h
  cases Scope.ended?_eq_some_iff.1 ended with
  | @deadline d _ hd reached =>
    refine ⟨d, (deadline_of_ending? h).symm.trans hd, ?_⟩
    rcases onTime_play prompt timers (task?_of_worker last.worker) hd with short | due
    · exact absurd reached (Nat.not_le_of_lt (last.instant ▸ short))
    · exact last.instant.trans due

theorem dominated_of_ending? (covered : ∀ policy ∈ config.policy, config.itemTimeout ≤ policy.budget)
    (h : (play op config setting events).ending? op .work = some ending) :
    ending.Dominated op config setting events := by
  obtain ⟨effort, effort', s, drained, last⟩ := lastStep_of_ending? h
  have made := (Planned.play op config setting events).order _ _ (task?_of_worker last.worker)
  have plain := (cause_of_ending? h).plain_of_covered covered (deadline_of_ending? h)
  refine ⟨h, plain, fun policy hp f failed again => plain.bare hp failed again,
    fun cancelled => Ending.raised_of_cancelled cancelled made.above, fun confined proper secluded raised => ?_,
    fun prompt => timely_of_ending? prompt h, fun prompt timers => onTimer_of_ending? prompt timers h⟩
  have guarded := guarded_play confined proper secluded
  obtain ⟨a, ha, hr⟩ := Signals.isRaised_iff.1 raised
  rw [guarded.root] at ha
  rw [List.mem_singleton.1 ha, last.signals] at hr
  exact guarded.alive hr

/-- **The deadline of an item dominates its retry budget.** Whatever the operation does, no budget
is ever spent that is no shorter than the time for an item. -/
theorem play_dominated (op : Operation S (Item ι) σ α) (config : Config) (setting : Setting S)
    (events : List (Event S ι)) (covered : ∀ policy ∈ config.policy, config.itemTimeout ≤ policy.budget) :
    Dominated op config setting events where
  ends e he := by
    obtain ⟨before, after, same, found⟩ := exists_of_mem_endings he
    exact ⟨before, after, same, dominated_of_ending? covered found⟩
  results r hr := (told_play op config setting events).exists_of_mem_recorded hr
  elapsed prompt r hr := (told_prompt op config setting prompt).exists_of_mem_recorded hr
  inWork prompt order effort ht d hd := by
    have deadline := ((Planned.play op config setting events).order order effort ht).deadline
    rw [config_play, hd] at deadline
    exact ((Timed.play prompt).order order effort ht).within d deadline

/-- Deadline and budget are due at the same instant, half a millisecond before the timer fires. The
first item is tried again until then, the second fails for good, and the third is aborted. -/
theorem deadline_wins_tie :
    let op : Operation Unit (Item Nat) (Scope × Activity Nat) Nat :=
      .scripted
        (fun item _ =>
          if item.payload = 1 then .finish (.failure (.plain "connection reset"))
          else if item.payload = 2 then .finish (.failure (.plain "fatal"))
          else .hang)
        (fun _ _ s => s) (fun _ s => s)
    let policy : Retry.Policy := .new 5500000 2000000 2000000 0
    let config : Config :=
      ⟨3, 5500000, some policy, ["fatal"], none, by decide, by decide, by decide, nofun⟩
    let events : List (Event Unit Nat) :=
      [.submit "a" 1, .submit "b" 2, .submit "c" 3, .start, .work, .work, .work, .pass 2000000, .work,
        .work, .pass 2000000, .work, .work, .pass 2000000, .work, .work, .work, .work, .work, .work,
        .work, .work, .work, .pass 1000000, .abort, .work, .work]
    let w := initial config ⟨.empty, [], ()⟩
    config.itemTimeout = policy.budget ∧ Dominated op config ⟨.empty, [], ()⟩ events ∧
      w.Prompt op events ∧ w.OnTimers op events ∧
      (w.endings op events).map (fun e => (e.order.item.id, e.instant, e.scopeEnd)) =
        [("a", 6000000, some .deadlineExceeded), ("b", 6000000, none), ("c", 7000000, some .cancelled)] ∧
      (play op config ⟨.empty, [], ()⟩ events).books.recorded.map
          (fun r => (r.1.id, (r.2.outcome matches .error (.scope _)), r.2.elapsed)) =
        [("a", true, 6000000), ("b", false, 0), ("c", true, 1000000)] := by
  intro op policy config events w
  have covered : ∀ p ∈ config.policy, config.itemTimeout ≤ p.budget := fun p hp => by
    cases hp
    exact Nat.le_refl _
  have prompt : w.Prompt op events := by
    refine ⟨trivial, trivial, trivial, trivial, trivial, trivial, trivial,
      ⟨.inl ?_, ?_, ?_, by decide +kernel⟩, trivial, trivial,
      ⟨.inl ?_, ?_, ?_, by decide +kernel⟩, trivial, trivial,
      ⟨.inl ?_, ?_, ?_, by decide +kernel⟩, trivial, trivial, trivial, trivial, trivial, trivial, trivial,
      trivial, trivial, ⟨.inl ?_, ?_, ?_, by decide +kernel⟩, trivial, trivial, trivial, trivial⟩ <;>
      exact Option.isNone_iff_eq_none.1 (by decide +kernel)
  have timers : w.OnTimers op events := onTimers_of_whole rfl fun d hd => by
    simp only [events, List.mem_cons, reduceCtorEq, Event.pass.injEq, List.not_mem_nil, false_or, or_false] at hd
    omega
  exact ⟨rfl, play_dominated op config _ events covered, prompt, timers, by decide +kernel,
    by decide +kernel⟩

end World

end Processor

end CallGuard
