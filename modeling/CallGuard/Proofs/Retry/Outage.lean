/-
Retries of an operation behind a breaker, while every call of it fails. The breaker opens at
the failure that reaches its threshold. A next try comes no later than the longest pause and
the millisecond after it, which is before an open breaker cools down. So it is turned away,
and to be turned away is not worth another try: the retries stop (`Stops`).
-/
import CallGuard.Proofs.Retry.Progress
import CallGuard.Proofs.Retry.Timing
import CallGuard.Proofs.Breaker.SoleUser

namespace CallGuard.Retry

variable {S ι σ α : Type}

open Circuit (Hooks)

theorem isFinal_of_mem {patterns : List String} {f : Failure} (h : f.rendered ∈ patterns) :
    isFinal patterns f = true :=
  List.any_eq_true.2 ⟨f.rendered, h, Text.occursIn_iff.2 (List.infix_refl _)⟩

theorem Job.nextStart_lt (job : Job ι) (k e : Nat) : job.nextStart k e < e + job.policy.cap + 1000000 := by
  have capped : job.pauseAfter k ≤ job.policy.cap := by
    unfold Job.pauseAfter
    omega
  have soon := Instant.tick_lt (e + job.pauseAfter k)
  unfold Job.nextStart
  split <;> omega

/-! ## Outages -/

namespace World

/-- An event is not another user of the breaker, and does not write its notes. -/
def Spares (w : World (Observed S ι α) σ α) : Event (Observed S ι α) → Prop
  | .around g _ => g.breaker = w.setting.site.breaker ∧ g.events = w.setting.site.events ∧
      g.site.2 = w.setting.site.site.2
  | .step | .pass _ | .raise _ => True

/-- So far the scope has not ended, and all calls that have ended failed in a way that matches no
pattern. -/
def Ailing (job : Job ι) (w : World (Observed S ι α) σ α) : Prop :=
  w.isOver job = false ∧ w.setting.site.site.2.all (Note.failing job.patterns) = true

instance (job : Job ι) (w : World (Observed S ι α) σ α) : Decidable (w.Ailing job) :=
  inferInstanceAs (Decidable (_ ∧ _))

/-- In these events there is an outage and nothing else: the scope does not end, calls end by
failing only, and nobody else uses the breaker. -/
def Outage (op : Operation (Observed S ι α) ι σ α) (job : Job ι) :
    World (Observed S ι α) σ α → List (Event (Observed S ι α)) → Prop
  | w, [] => w.Ailing job
  | w, e :: events => w.Ailing job ∧ w.Spares e ∧ Outage op job (w.apply op job e) events

theorem Outage.ailing {op : Operation (Observed S ι α) ι σ α} {job : Job ι}
    {w : World (Observed S ι α) σ α} {events : List (Event (Observed S ι α))}
    (h : w.Outage op job events) : w.Ailing job := by
  cases events with
  | nil => exact h
  | cons e events => exact h.1

theorem Outage.keep {op : Operation (Observed S ι α) ι σ α} {job : Job ι}
    {P : World (Observed S ι α) σ α → Prop}
    (step : ∀ w e, w.Ailing job → w.Spares e → (w.apply op job e).Ailing job → P w → P (w.apply op job e))
    {events : List (Event (Observed S ι α))} {w : World (Observed S ι α) σ α}
    (outage : w.Outage op job events) (start : P w) : P (events.foldl (apply op job) w) := by
  induction events generalizing w with
  | nil => exact start
  | cons e events ih =>
    obtain ⟨ailing, spares, rest⟩ := outage
    exact ih rest (step w e ailing spares rest.ailing start)

/-- An outage with nobody else about at all. -/
theorem outage_of_alone {op : Operation (Observed S ι α) ι σ α} {job : Job ι}
    {events : List (Event (Observed S ι α))} {w : World (Observed S ι α) σ α}
    (alone : ∀ e ∈ events, ¬ e matches .around _ _)
    (ailing : ∀ k ≤ events.length, ((events.take k).foldl (apply op job) w).Ailing job) :
    w.Outage op job events := by
  induction events generalizing w with
  | nil => exact ailing 0 (Nat.le_refl 0)
  | cons e events ih =>
    refine ⟨ailing 0 (Nat.zero_le _), ?_, ih (fun e he => alone e (List.mem_cons_of_mem _ he)) ?_⟩
    · have := alone e List.mem_cons_self
      cases e with
      | step | pass _ | raise _ => trivial
      | around g journal => exact absurd rfl this
    · intro k hk
      exact ailing (k + 1) (Nat.succ_le_succ hk)

end World

/-! ## How an outage goes -/

/-- A breaker that stays open longer than any pause lasts, and retries that take its rejection
for final. -/
structure Coupled (b : Breaker) (hooks : Hooks) (job : Job ι) : Prop where
  quiet : hooks.Quiet
  fits : b.threshold ≤ Word.last
  window : job.policy.cap + 1000000 ≤ b.resetTimeout
  listed : Failure.circuitOpen.rendered ∈ job.patterns

/-- How the retries and the breaker, which was `b` before, stand in an outage. -/
inductive Bearing (b : Breaker) (hooks : Hooks) (w : World (Observed S ι α) σ α) : Prop
  /-- No call goes on. If the breaker has opened, then at the end of the latest try. -/
  | between {calls last} : (∀ s, w.run.phase ≠ .trying s) → (∀ o, w.run.phase ≠ .ended o) →
      Worn b hooks w.setting.site calls last → Note.begunIn w.setting.site.site.2 = calls →
      w.tries.length = calls →
      (∀ e, last = some e → ∃ t v, w.tries.head? = some t ∧ t.ending = some (e, v)) → Bearing b hooks w
  | calling {calls s} : w.run.phase = .trying s → Worn b hooks w.setting.site calls none →
      Note.begunIn w.setting.site.site.2 = calls + 1 → w.tries.length = calls + 1 → Bearing b hooks w
  /-- The breaker turned away a try. -/
  | rejected {calls e} : w.run.phase = .ended (.failure .circuitOpen) →
      Worn b hooks w.setting.site calls (some e) → Note.begunIn w.setting.site.site.2 = calls →
      w.tries.length = calls + 1 → Bearing b hooks w
  /-- The budget ended the run first. -/
  | spent {calls last} : w.exhausted ≠ none → Worn b hooks w.setting.site calls last →
      Note.begunIn w.setting.site.site.2 = calls → w.tries.length = calls → Bearing b hooks w

theorem Run.proceed_site (job : Job ι) (now : Nat) (run : Run σ α) (w : Setting S)
    (p : Progress σ (Verdict α)) : (run.proceed job now (w, p)).2.site = w.site := by
  cases p with
  | waiting s => rfl
  | finished verdict =>
    cases verdict with
    | scopeEnded reason => rfl
    | completed outcome =>
      cases outcome with
      | value a => rfl
      | panic message => rfl
      | failure f =>
        simp only [proceed, settle]
        split <;> rfl

section Steps

variable {b : Breaker} {hooks : Hooks} {op : Operation S ι σ α} {job : Job ι}
  {w : World (Observed S ι α) σ α}

theorem Bearing.of_fared {calls now : Nat} {run : Run σ α} {t : Try α} {tries : List (Try α)}
    {exhausted : Option Nat} {setting : Setting (Observed S ι α)}
    {p : Progress σ (Outcome α)} (fared : Fared b hooks job.patterns now calls (setting, p))
    (count : tries.length = calls) :
    Bearing b hooks ⟨now, (run.proceed job now (setting, p.map id .completed)).2,
      (run.proceed job now (setting, p.map id .completed)).1,
      t.take now (p.map id .completed) :: tries, exhausted⟩ := by
  cases fared with
  | waits worn begun => exact .calling rfl worn begun (by rw [List.length_cons, count])
  | @fails _ f last notFinal at_now worn begun =>
    have settled : run.proceed job now (setting, .finished (.completed (.failure f))) =
        ({ run with phase := .pausing f (Instant.pauseEnd now run.pause) }, setting) := by
      simp only [Run.proceed, Run.settle, notFinal, Bool.false_eq_true, if_false]
    simp only [Progress.map, settled]
    refine .between (fun _ trying => by cases trying) (fun _ ended => by cases ended) worn begun
      (by rw [List.length_cons, count]) fun e he => ?_
    rw [at_now e he]
    exact ⟨_, _, rfl, rfl⟩

/-- A try that an open breaker turns away ends the run. -/
theorem Bearing.turned_away {calls e : Nat} (coupled : Coupled b hooks job) (sched : OnSchedule job w)
    (hp : w.run.phase = .ready) (worn : Worn b hooks w.setting.site calls (some e))
    (begun : Note.begunIn w.setting.site.site.2 = calls) (count : w.tries.length = calls)
    (latest : ∃ t v, w.tries.head? = some t ∧ t.ending = some (e, v))
    (open_ : job.scope.ended? w.setting.signals w.now = none) {t : Try α} {exhausted : Option Nat}
    {r} (hr : Race.start (op.noted.guarded hooks) job.request (w.run.attempt + 1) job.scope w.now w.setting = r) :
    Bearing b hooks ⟨w.now, ((w.run.counted w.now).proceed job w.now r).2,
      ((w.run.counted w.now).proceed job w.now r).1, t :: w.tries, exhausted⟩ := by
  have soon : w.now ≤ e + b.resetTimeout := by
    have stands := sched.stands
    rw [hp] at stands
    obtain ⟨t, v, ht, he⟩ := latest
    generalize w.tries = tries at stands ht
    cases stands with
    | first _ _ => cases ht
    | @again t' tries e' f he' _ now _ _ =>
      obtain rfl := Option.some.inj ht
      rw [he] at he'
      cases he'
      have soon := job.nextStart_lt t'.number e
      have window := coupled.window
      omega
  have started := op.noted.guarded_start_of_rejected hooks job.request (w.run.attempt + 1) job.scope w.now
    w.setting (worn.rejects soon)
  have final := isFinal_of_mem coupled.listed
  subst hr
  simp only [Race.start, open_, started, Progress.map, Run.proceed, Run.settle, final, if_true]
  exact .rejected rfl (worn.of_same rfl rfl) begun (by rw [List.length_cons, count])

/-- **A step of the retries.** -/
theorem Bearing.step (coupled : Coupled b hooks job) (sched : OnSchedule job w)
    (open_ : job.scope.ended? w.setting.signals w.now = none)
    (failing : (w.step (op.noted.guarded hooks) job).setting.site.site.2.all
      (Note.failing job.patterns) = true)
    (h : Bearing b hooks w) : Bearing b hooks (w.step (op.noted.guarded hooks) job) := by
  unfold World.step at failing ⊢
  cases hs : w.run.step (op.noted.guarded hooks) job w.now w.setting with
  | none => exact h
  | some r =>
    obtain ⟨run, setting⟩ := r
    simp only [hs] at failing ⊢
    have unspent := sched.not_exhausted (Stepped.of_step hs).going
    cases Stepped.of_step hs with
    | began hp hr =>
      cases h with
      | @between calls last _ _ worn begun count latest =>
        cases last with
        | none =>
          obtain ⟨⟨setting, p⟩, started⟩ : ∃ r, (op.noted.guarded hooks).start job.request
              (w.run.attempt + 1) job.scope w.now w.setting = r := ⟨_, rfl⟩
          simp only [World.watch, hp, hr]
          simp only [Race.start, open_, started] at hr
          cases hr
          simp only [Run.proceed_site] at failing
          exact .of_fared (worn.start coupled.quiet coupled.fits begun started failing) count
        | some e =>
          simp only [World.watch, hp]
          exact .turned_away coupled sched hp worn begun count (latest e rfl) open_ hr
      | calling hc _ _ _ | rejected hc _ _ _ => rw [hp] at hc; cases hc
      | spent hx _ _ _ => exact absurd unspent hx
    | @resumed s _ _ hp hr =>
      cases h with
      | between idle _ _ _ _ _ => exact absurd hp (idle s)
      | @calling calls s' hc worn begun count =>
        obtain ⟨t, tries, ht⟩ : ∃ t tries, w.tries = t :: tries := List.exists_cons_of_length_eq_add_one count
        simp only [World.watch, hp, ht, hr]
        simp only [Race.resume, open_] at hr
        obtain ⟨⟨setting, p⟩, hq, he⟩ := Option.map_eq_some_iff.1 hr
        cases he
        rw [ht, List.length_cons] at count
        simp only [Run.proceed_site] at failing
        exact .of_fared (worn.resume coupled.quiet coupled.fits begun hq failing) (Nat.succ.inj count)
      | rejected hc _ _ _ => rw [hp] at hc; cases hc
      | spent hx _ _ _ => exact absurd unspent hx
    | cut _ ended => rw [open_] at ended; cases ended
    | exhausted hp _ _ _ =>
      cases h with
      | between _ _ worn begun count _ =>
        refine .spent ?_ (worn.of_same rfl rfl) begun ?_
        · simp only [World.watchEnd, hp, open_, Option.isNone_none, if_true]
          exact Option.some_ne_none _
        · simp only [World.watch, hp, count]
      | calling hc _ _ _ | rejected hc _ _ _ => rw [hp] at hc; cases hc
      | spent hx _ _ _ => exact absurd unspent hx
    | renewed hp _ _ _ =>
      cases h with
      | between _ _ worn begun count latest =>
        refine .between (fun _ trying => by cases trying) (fun _ ended => by cases ended)
          (worn.of_same rfl rfl) begun ?_ ?_
        · simp only [World.watch, hp, count]
        · simpa only [World.watch, hp] using latest
      | calling hc _ _ _ | rejected hc _ _ _ => rw [hp] at hc; cases hc
      | spent hx _ _ _ => exact absurd unspent hx

theorem Bearing.of_same {w' : World (Observed S ι α) σ α} (h : Bearing b hooks w) (run : w'.run = w.run)
    (tries : w'.tries = w.tries) (exhausted : w'.exhausted = w.exhausted)
    (breaker : w'.setting.site.breaker = w.setting.site.breaker)
    (events : w'.setting.site.events = w.setting.site.events)
    (notes : w'.setting.site.site.2 = w.setting.site.site.2) : Bearing b hooks w' := by
  have same {calls last} (worn : Worn b hooks w.setting.site calls last) :
      Worn b hooks w'.setting.site calls last := worn.of_same breaker events
  cases h with
  | between idle going worn begun count latest =>
    exact .between (run ▸ idle) (run ▸ going) (same worn) (notes ▸ begun) (tries ▸ count) (tries ▸ latest)
  | calling hc worn begun count => exact .calling (run ▸ hc) (same worn) (notes ▸ begun) (tries ▸ count)
  | rejected hc worn begun count => exact .rejected (run ▸ hc) (same worn) (notes ▸ begun) (tries ▸ count)
  | spent hx worn begun count => exact .spent (exhausted ▸ hx) (same worn) (notes ▸ begun) (tries ▸ count)

theorem Bearing.apply (coupled : Coupled b hooks job) (sched : OnSchedule job w) (ailing : w.Ailing job)
    {e : Event (Observed S ι α)} (spares : w.Spares e)
    (still : (w.apply (op.noted.guarded hooks) job e).Ailing job) (h : Bearing b hooks w) :
    Bearing b hooks (w.apply (op.noted.guarded hooks) job e) := by
  cases e with
  | step =>
    have open_ : job.scope.ended? w.setting.signals w.now = none :=
      Option.isNone_iff_eq_none.1 (Option.isSome_eq_false_iff.1 ailing.1)
    exact h.step coupled sched open_ still.2
  | pass instant =>
    simp only [World.apply]
    split
    · exact h.of_same rfl rfl rfl rfl rfl rfl
    · exact h
  | raise token => exact h.of_same rfl rfl rfl rfl rfl rfl
  | around g journal =>
    obtain ⟨breaker, events, notes⟩ := spares
    exact h.of_same rfl rfl rfl breaker events notes

/-- No more tries than failures that it takes to open the breaker, and one. -/
theorem Bearing.length_tries_le (h : Bearing b hooks w) : w.tries.length ≤ b.threshold - b.failures + 1 := by
  cases h with
  | between _ _ worn _ count _ | rejected _ worn _ count | spent _ worn _ count =>
    have := worn.calls_le
    omega
  | calling _ worn _ count =>
    have := worn.calls_le
    omega

end Steps

/-! ## Every run -/

/-- How an outage ends: the breaker has opened, once, and turned away the latest try. -/
structure TurnedAway (b : Breaker) (hooks : Hooks) (w : World (Observed S ι α) σ α) (outcome : Outcome α) :
    Prop where
  outcome : outcome = .failure .circuitOpen
  begun : Note.begunIn w.setting.site.site.2 = b.threshold - b.failures
  opened : w.setting.site.breaker.state = .opened
  heard : HookEvent.changes w.setting.site.events = hooks.told [⟨.closed, .opened⟩]

/-- How else it may end: the budget was spent before. -/
def RanOut (job : Job ι) (w : World S σ α) (outcome : Outcome α) : Prop :=
  ∃ stop b f, w.exhausted = some stop ∧ job.budgetEnd = some b ∧ b ≤ stop ∧
    outcome = .failure (.exhausted (stop - job.started) w.run.attempt f)

/-- What retries behind the breaker `b` promise in an outage. -/
structure Stops (op : Operation (Observed S ι α) ι σ α) (job : Job ι) (b : Breaker) (hooks : Hooks)
    (setting : Setting (Observed S ι α)) : Prop where
  /-- The operation is called no more often than it takes to open the breaker. -/
  few : ∀ events, (World.initial job setting).Outage op job events →
    Note.begunIn (World.play op job setting events).setting.site.site.2 ≤ b.threshold - b.failures
  /-- Unless the budget ends the run first, it is called as often, and the rejection is returned
  as it is. -/
  ended : ∀ events outcome, (World.initial job setting).Outage op job events →
    (World.play op job setting events).run.phase = .ended outcome →
      TurnedAway b hooks (World.play op job setting events) outcome ∨
        RanOut job (World.play op job setting events) outcome
  /-- The run ends, if its calls do. -/
  ends : ∀ events, Lively op job setting events →
    (∀ n, (World.initial job setting).Outage op job (upTo events n)) →
      ∃ n outcome, (World.after op job setting events n).run.phase = .ended outcome

/-- What a run starts from: nothing was called yet, and hooks did nothing yet. -/
def observing (signals : Signals) (journal : Journal) (b : Breaker) (site : S) : Setting (Observed S ι α) :=
  ⟨signals, journal, ⟨b, [], (site, [])⟩⟩

/-- **Retries over an open breaker stop.** The breaker may have been used before in any way that
has left it closed. -/
theorem play_outage (threshold : UInt64) (resetTimeout : Nat) (touches : List Breaker.Touch)
    {b : Breaker} (used : b = ((Breaker.new threshold.toNat resetTimeout).replay touches).1)
    (closed : b.state = .closed) {hooks : Hooks} (quiet : hooks.Quiet) {job : Job ι}
    (window : job.policy.cap + 1000000 ≤ b.resetTimeout)
    (listed : "circuit breaker is open" ∈ job.patterns) (op : Operation S ι σ α)
    (signals : Signals) (journal : Journal) (site : S) :
    Stops (op.noted.guarded hooks) job b hooks (observing signals journal b site) := by
  have new := Circuit.threshold_new_le threshold resetTimeout
  have fits : b.threshold ≤ Word.last := by
    rw [used, (Breaker.replay_settings _ touches).1]
    exact new
  have below : b.failures < b.threshold := by
    have told := Breaker.told_replay (.new threshold.toNat resetTimeout) new touches
    rw [← used] at told
    exact (told.closed closed).2.1
  have coupled : Coupled b hooks job := ⟨quiet, fits, window, listed⟩
  have start : Bearing b hooks
      (World.initial job (observing signals journal b site) : World (Observed S ι α) σ α) :=
    .between nofun nofun (.closed rfl rfl closed rfl below rfl) rfl rfl nofun
  -- The schedule is kept beside: it tells when the next try comes.
  have bearing {events} (outage : (World.initial job (observing signals journal b site)).Outage
      (op.noted.guarded hooks) job events) :
      Bearing b hooks (World.play (op.noted.guarded hooks) job (observing signals journal b site) events) :=
    (outage.keep (P := fun w => OnSchedule job w ∧ Bearing b hooks w)
      (fun w e ailing spares still h => ⟨h.1.apply e, h.2.apply coupled h.1 ailing spares still⟩)
      ⟨.initial job _, start⟩).2
  constructor
  · intro events outage
    cases bearing outage with
    | between _ _ worn begun _ _ | rejected _ worn begun _ | spent _ worn begun _ =>
      exact begun ▸ worn.calls_le
    | calling _ worn begun _ =>
      cases worn with
      | closed _ _ _ _ below _ => omega
  · intro events outcome outage ended
    cases bearing outage with
    | between _ going _ _ _ _ => exact absurd ended (going outcome)
    | calling hc _ _ _ => rw [ended] at hc; cases hc
    | rejected hc worn begun _ =>
      rw [ended] at hc
      cases hc
      have calls := worn.calls_eq
      cases worn with
      | opened _ opened _ _ heard => exact .inl ⟨rfl, begun.trans calls, opened, heard⟩
    | spent hx _ _ _ =>
      obtain ⟨stop, hstop⟩ := Option.ne_none_iff_exists'.1 hx
      obtain ⟨t, -, e, f, budget, -, -, hb, rfl, hp⟩ :=
        (onSchedule_play _ job (observing signals journal b site) events).exhausted stop hstop
      rw [ended] at hp
      refine .inr ⟨_, budget, f, hstop, hb, ?_, (Phase.ended.inj hp)⟩
      have := Instant.le_tick budget
      unfold budgetStop
      split <;> omega
  · intro events lively outage
    exact lively.ends_of_bounded fun n => (bearing (outage n)).length_tries_le

/-- A breaker that opens at three failures has already seen one. An operation that takes 5 ms and
fails is called twice, the second time 0.1 s after the first has failed, and 0.2 s after that the
breaker turns away the third try. -/
theorem two_failures_in_an_outage :
    let b := ((Breaker.new (3 : UInt64).toNat 2000000000).replay [.fail 0]).1
    let hooks : Hooks := ⟨true, false, fun _ => none⟩
    let op : Operation Unit Unit (Scope × Activity Nat) Nat :=
      .scripted (fun _ _ => .sleep 5000000 (.finish (.failure (.plain "connection refused"))))
        (fun _ _ s => s) (fun _ s => s)
    let job : Job Unit := ⟨(), ⟨⟨0, []⟩, none⟩, .standard, ["circuit breaker is open"], 0⟩
    let setting := observing .empty [] b ()
    let events : List (Event (Observed Unit Unit Nat)) :=
      [.step, .pass 5000000, .step, .pass 105000000, .step, .step, .pass 110000000, .step,
        .pass 310000000, .step, .step]
    let w := World.play (op.noted.guarded hooks) job setting events
    Stops (op.noted.guarded hooks) job b hooks setting ∧
      (World.initial job setting).Outage (op.noted.guarded hooks) job events ∧
      w.run.outcome? = some (.failure .circuitOpen) ∧ Note.begunIn w.setting.site.site.2 = 2 ∧
      w.run.calls = [310000000, 105000000, 0] ∧
      HookEvent.changes w.setting.site.events = [⟨.closed, .opened⟩] := by
  intro b hooks op job setting events w
  exact ⟨play_outage 3 2000000000 [.fail 0] rfl (by decide) (fun _ => rfl) (by decide) List.mem_cons_self
      op .empty [] (),
    World.outage_of_alone (by decide) (by decide +kernel), by decide +kernel⟩

end CallGuard.Retry
