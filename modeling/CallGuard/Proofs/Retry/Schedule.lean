/-
The schedule of a retried run: which try follows which, and exactly when. Each
try but the last failed in a way that may be tried again, and the next one
began on the first whole millisecond at which the pause after it was over.
-/
import CallGuard.Proofs.Retry.Steps
import CallGuard.Proofs.Retry.World
import Mathlib.Data.List.Chain

namespace CallGuard.Retry

variable {S ι σ α : Type}

/-! ## Pauses -/

namespace Job

/-- The pause after try `k`. It grows by a fixed step up to the cap, and nobody
pauses for longer than the longest pause. -/
def pauseAfter (job : Job ι) (k : Nat) : Nat :=
  min (min (job.policy.initial + k * job.policy.step) job.policy.cap) Span.longestPause

/-- When try `k + 1` begins, if try `k` ended at `e`. -/
def nextStart (job : Job ι) (k e : Nat) : Nat :=
  if job.pauseAfter k = 0 then e else Instant.tick (e + job.pauseAfter k)

/-- A run that would pause for `pause` pauses as it should after try `k`. -/
def PausesAt (job : Job ι) (k pause : Nat) : Prop := min pause Span.longestPause = job.pauseAfter k

variable {job : Job ι}

theorem pausesAt_initial : job.PausesAt 0 job.policy.initial := by
  unfold PausesAt pauseAfter
  rw [Nat.zero_mul, Nat.add_zero, Nat.min_eq_left job.policy.initial_le_cap]

/-- Growing by one step keeps to the pauses, also where a sum stops at the longest
span. -/
theorem PausesAt.next {k pause : Nat} (h : job.PausesAt k pause) :
    job.PausesAt (k + 1) (job.policy.next pause) := by
  have longer : Span.longestPause ≤ Span.longest := by decide +kernel
  unfold PausesAt pauseAfter at h ⊢
  unfold Policy.next Span.add
  rw [Nat.succ_mul]
  omega

theorem PausesAt.pauseEnd {k pause : Nat} (h : job.PausesAt k pause) (e : Nat) :
    Instant.pauseEnd e pause = e + job.pauseAfter k := by
  rw [Instant.pauseEnd, h]

end Job

/-! ## From one try to the next -/

/-- Try `u` was made after try `t`, in time. -/
structure Follows (job : Job ι) (t u : Try α) : Prop where
  number : u.number = t.number + 1
  paced : ∃ e f, t.ending = some (e, .completed (.failure f)) ∧ isFinal job.patterns f = false ∧
    u.start = job.nextStart t.number e
  budget : ∀ b, job.budgetEnd = some b → u.start < b

/-- The clock since a try ended at `e`, in a pause that is over at `due`: it has
not moved on, or it has come to a whole millisecond and has passed neither the
end of the pause nor that of the budget by more than that. -/
def Waited (job : Job ι) (e due now : Nat) : Prop :=
  now = e ∨ e < due ∧ now % 1000000 = 0 ∧ now ≤ Instant.tick due ∧
    ∀ b, job.budgetEnd = some b → e < b ∧ now ≤ Instant.tick b

theorem Waited.pass {job : Job ι} {e due now instant : Nat} (h : Waited job e due now)
    (before : now < due) (budget : ∀ b, job.budgetEnd = some b → now < b)
    (whole : instant % 1000000 = 0) (hd : instant ≤ Instant.tick due)
    (hb : ∀ b, job.budgetEnd = some b → instant ≤ Instant.tick b) : Waited job e due instant := by
  refine .inr ⟨?_, whole, hd, fun b hbe => ⟨?_, hb b hbe⟩⟩
  · rcases h with rfl | ⟨h, -, -, -⟩
    · exact before
    · exact h
  · rcases h with rfl | ⟨-, -, -, h⟩
    · exact budget b hbe
    · exact (h b hbe).1

/-- A pause that is over is over just now. -/
theorem Waited.nextStart {job : Job ι} {k e now : Nat} (h : Waited job e (e + job.pauseAfter k) now)
    (due : e + job.pauseAfter k ≤ now) : now = job.nextStart k e := by
  unfold Job.nextStart
  rcases h with rfl | ⟨later, whole, within, -⟩
  · rw [if_pos (by omega)]
  · rw [if_neg (by omega)]
    exact Instant.eq_tick_of_le whole due within

/-- When a budget that is over at `b` ends a run whose last try ended at `e`. -/
def budgetStop (b e : Nat) : Nat := if b ≤ e then e else Instant.tick b

theorem Waited.budgetStop {job : Job ι} {e due now b : Nat} (h : Waited job e due now)
    (hb : job.budgetEnd = some b) (spent : b ≤ now) : now = budgetStop b e := by
  unfold Retry.budgetStop
  rcases h with rfl | ⟨-, whole, -, within⟩
  · rw [if_pos spent]
  · obtain ⟨later, within⟩ := within b hb
    rw [if_neg (Nat.not_le.2 later)]
    exact Instant.eq_tick_of_le whole spent within

/-! ## How a run stands -/

/-- How a run in some phase stands at an instant, with the pause it would make and
the tries it has made. -/
inductive Stands (job : Job ι) (now pause : Nat) : List (Try α) → Phase σ α → Prop
  | first : now = job.started → job.PausesAt 0 pause → Stands job now pause [] .ready
  | again {t tries e f} : t.ending = some (e, .completed (.failure f)) →
      isFinal job.patterns f = false → now = job.nextStart t.number e →
      (∀ b, job.budgetEnd = some b → now < b) → job.PausesAt (t.number + 1) pause →
      Stands job now pause (t :: tries) .ready
  | trying {t tries s} : t.ending = none → job.PausesAt t.number pause →
      Stands job now pause (t :: tries) (.trying s)
  | pausing {t tries e f} : t.ending = some (e, .completed (.failure f)) →
      isFinal job.patterns f = false → job.PausesAt t.number pause →
      Waited job e (e + job.pauseAfter t.number) now →
      Stands job now pause (t :: tries) (.pausing f (e + job.pauseAfter t.number))
  | ended {tries outcome} : Stands job now pause tries (.ended outcome)

namespace Try

variable (now : Nat) (t : Try α) (p : Progress σ (Verdict α))

@[simp] theorem number_take : (t.take now p).number = t.number := by cases p <;> rfl
@[simp] theorem start_take : (t.take now p).start = t.start := by cases p <;> rfl
@[simp] theorem scopeEnd_take : (t.take now p).scopeEnd = t.scopeEnd := by cases p <;> rfl
@[simp] theorem launched_take : (t.take now p).launched = t.launched := by cases p <;> rfl

end Try

theorem Run.proceed_kept (job : Job ι) (now : Nat) (run : Run σ α) (w : Setting S)
    (p : Progress σ (Verdict α)) : (run.proceed job now (w, p)).1.attempt = run.attempt ∧
      (run.proceed job now (w, p)).1.calls = run.calls ∧
      (run.proceed job now (w, p)).1.pause = run.pause := by
  cases p with
  | waiting s => exact ⟨rfl, rfl, rfl⟩
  | finished verdict =>
    simp only [Run.proceed]
    rcases settle_cases job now run w verdict with ⟨f, -, -, he⟩ | ⟨outcome, he⟩ <;> rw [he] <;>
      exact ⟨rfl, rfl, rfl⟩

theorem Stands.proceed {job : Job ι} {now : Nat} {run : Run σ α} {t : Try α} {tries : List (Try α)}
    (open_ : t.ending = none) (pause : job.PausesAt t.number run.pause) (w : Setting S)
    (p : Progress σ (Verdict α)) :
    Stands job now run.pause (t.take now p :: tries) (run.proceed job now (w, p)).1.phase := by
  cases p with
  | waiting s => exact .trying open_ pause
  | finished verdict =>
    simp only [Run.proceed]
    rcases settle_cases job now run w verdict with ⟨f, rfl, hf, he⟩ | ⟨outcome, he⟩
    · rw [he, pause.pauseEnd now]
      exact .pausing rfl hf pause (.inl rfl)
    · rw [he]
      exact .ended

/-- A try whose scope has ended ends at once, and its operation is not started. -/
def Guarded (t : Try α) : Prop :=
  ∀ reason, t.scopeEnd = some reason →
    t.launched = false ∧ t.ending = some (t.start, .scopeEnded reason)

/-- The budget ended a run at `stop`, after its last try `t`. -/
structure Exhausted (job : Job ι) (run : Run σ α) (t : Try α) (stop : Nat) : Prop where
  stopped : ∃ e f b, t.ending = some (e, .completed (.failure f)) ∧ isFinal job.patterns f = false ∧
    job.budgetEnd = some b ∧ stop = budgetStop b e ∧
    run.phase = .ended (.failure (.exhausted (stop - job.started) run.attempt f))

/-- The tries of a world are on schedule. -/
structure OnSchedule (job : Job ι) (w : World S σ α) : Prop where
  stands : Stands job w.now w.run.pause w.tries w.run.phase
  chain : w.tries.IsChain fun u t => Follows job t u
  first : ∀ t, w.tries.getLast? = some t → t.number = 0 ∧ t.start = job.started
  latest : ∀ t, w.tries.head? = some t → t.number + 1 = w.tries.length
  attempt : w.run.attempt = w.tries.length
  calls : w.run.calls = w.tries.map (·.start)
  guarded : ∀ t ∈ w.tries, Guarded t
  exhausted : ∀ stop, w.exhausted = some stop →
    ∃ t, w.tries.head? = some t ∧ Exhausted job w.run t stop

theorem Stands.follows {job : Job ι} {now pause : Nat} {tries : List (Try α)}
    (h : Stands job now pause tries (.ready : Phase σ α))
    (latest : ∀ t, tries.head? = some t → t.number + 1 = tries.length) :
    job.PausesAt tries.length pause ∧ (tries = [] → now = job.started) ∧
      ∀ u : Try α, u.number = tries.length → u.start = now → ∀ t ∈ tries.head?, Follows job t u := by
  cases h with
  | first hn hp => exact ⟨hp, fun _ => hn, fun _ _ _ _ => nofun⟩
  | @again t tries e f he hf hn hb hp =>
    have number := latest t rfl
    refine ⟨number ▸ hp, nofun, fun u hu hs t' ht' => ?_⟩
    obtain rfl : t = t' := Option.some.inj ht'
    exact
      { number := by rw [hu, number]
        paced := ⟨e, f, he, hf, hs.trans hn⟩
        budget := fun b hbe => by rw [hs]; exact hb b hbe }

/-- A new try keeps to what its scope allows. -/
theorem guarded_start (op : Operation S ι σ α) (request : ι) (n number : Nat) (scope : Scope) (now : Nat)
    (w : Setting S) : Guarded
      ((⟨number, now, scope.ended? w.signals now,
        Try.isLaunched (Race.start op request n scope now w).2, none⟩ : Try α).take now
          (Race.start op request n scope now w).2) := by
  intro reason hr
  simp only [Try.scopeEnd_take] at hr
  simp only [Race.start, hr]
  exact ⟨rfl, rfl⟩

namespace OnSchedule

variable {op : Operation S ι σ α} {job : Job ι} {w : World S σ α}

theorem not_exhausted (h : OnSchedule job w) (going : ∀ outcome, w.run.phase ≠ .ended outcome) :
    w.exhausted = none := by
  cases he : w.exhausted with
  | none => rfl
  | some stop =>
    obtain ⟨t, -, _, _, _, -, -, -, -, hp⟩ := h.exhausted stop he
    exact absurd hp (going _)

theorem watchEnd_of_ne {run : Run σ α} (h : ∀ f due, w.run.phase ≠ .pausing f due) :
    w.watchEnd job run = w.exhausted := by
  unfold World.watchEnd
  split
  · rename_i hp _
    exact absurd hp (h _ _)
  · rfl

theorem began {w' : Setting S} {p : Progress σ (Verdict α)} (h : OnSchedule job w)
    (hp : w.run.phase = .ready)
    (hr : Race.start op job.request (w.run.attempt + 1) job.scope w.now w.setting = (w', p)) :
    OnSchedule job
      ⟨w.now, ((w.run.counted w.now).proceed job w.now (w', p)).2,
        ((w.run.counted w.now).proceed job w.now (w', p)).1, w.watch op job,
        w.watchEnd job ((w.run.counted w.now).proceed job w.now (w', p)).1⟩ := by
  have hstands := h.stands
  rw [hp] at hstands
  obtain ⟨pause, fresh, follows⟩ := hstands.follows h.latest
  obtain ⟨hattempt, hcalls, hpause⟩ := Run.proceed_kept job w.now (w.run.counted w.now) w' p
  have guarded := guarded_start op job.request (w.run.attempt + 1) w.tries.length job.scope w.now w.setting
  have idle : w.watchEnd job ((w.run.counted w.now).proceed job w.now (w', p)).1 = none := by
    rw [watchEnd_of_ne (by rw [hp]; exact nofun), h.not_exhausted (by rw [hp]; exact nofun)]
  have watched : w.watch op job =
      (⟨w.tries.length, w.now, job.scope.ended? w.setting.signals w.now, Try.isLaunched p, none⟩ :
        Try α).take w.now p :: w.tries := by
    simp only [World.watch, hp, hr]
  rw [hr] at guarded
  rw [watched, idle]
  exact
    { stands := by
        rw [hpause]
        exact .proceed rfl pause w' p
      chain := List.isChain_cons.2 ⟨follows _ (Try.number_take ..) (Try.start_take ..), h.chain⟩
      first := fun t ht => by
        cases htries : w.tries with
        | nil =>
          rw [htries, List.getLast?_singleton] at ht
          obtain rfl := Option.some.inj ht
          rw [Try.number_take, Try.start_take]
          exact ⟨rfl, fresh htries⟩
        | cons u tries =>
          rw [htries, List.getLast?_cons_cons, ← htries] at ht
          exact h.first t ht
      latest := fun t ht => by
        obtain rfl := Option.some.inj ht
        rw [Try.number_take, List.length_cons]
      attempt := by
        rw [hattempt, List.length_cons, ← h.attempt]
        rfl
      calls := by
        rw [hcalls, List.map_cons, Try.start_take, ← h.calls]
        rfl
      guarded := fun t ht => by
        rcases List.mem_cons.1 ht with rfl | ht
        · exact guarded
        · exact h.guarded t ht
      exhausted := nofun }

theorem resumed {s : σ} {w' : Setting S} {p : Progress σ (Verdict α)} (h : OnSchedule job w)
    (hp : w.run.phase = .trying s) (hr : Race.resume op job.scope w.now s w.setting = some (w', p)) :
    OnSchedule job
      ⟨w.now, (w.run.proceed job w.now (w', p)).2, (w.run.proceed job w.now (w', p)).1, w.watch op job,
        w.watchEnd job (w.run.proceed job w.now (w', p)).1⟩ := by
  obtain ⟨hattempt, hcalls, hpause⟩ := Run.proceed_kept job w.now w.run w' p
  have idle : w.watchEnd job (w.run.proceed job w.now (w', p)).1 = none := by
    rw [watchEnd_of_ne (by rw [hp]; exact nofun), h.not_exhausted (by rw [hp]; exact nofun)]
  obtain ⟨now, setting, run, tries, exhausted⟩ := w
  have hstands := h.stands
  simp only at hp hstands
  rw [hp] at hstands
  cases hstands with
  | @trying t tries _ open_ pause =>
  have watched : (World.mk now setting run (t :: tries) exhausted).watch op job =
      t.take now p :: tries := by
    simp only [World.watch, hp, hr]
  rw [watched, idle]
  exact
    { stands := by
        rw [hpause]
        exact .proceed open_ pause w' p
      chain := h.chain.imp_head fun hf =>
        { number := by rw [Try.number_take]; exact hf.number
          paced := by rw [Try.start_take]; exact hf.paced
          budget := by rw [Try.start_take]; exact hf.budget }
      first := fun u hu => by
        cases tries with
        | nil =>
          obtain rfl := Option.some.inj hu
          have first := h.first t rfl
          simpa using first
        | cons v tries => exact h.first u hu
      latest := fun u hu => by
        obtain rfl := Option.some.inj hu
        rw [Try.number_take]
        exact h.latest t rfl
      attempt := hattempt.trans h.attempt
      calls := by
        rw [hcalls, List.map_cons, Try.start_take]
        exact h.calls
      guarded := fun u hu => by
        rcases List.mem_cons.1 hu with rfl | hu
        · intro reason hs
          rw [Try.scopeEnd_take] at hs
          have := (h.guarded t List.mem_cons_self reason hs).2
          rw [open_] at this
          cases this
        · exact h.guarded u (List.mem_cons_of_mem _ hu)
      exhausted := nofun }

/-- A run that goes on from a pause, or ends in it, keeps its tries. -/
theorem of_pause {f due} {run : Run σ α} {setting : Setting S} (h : OnSchedule job w)
    (hp : w.run.phase = .pausing f due) (stands : Stands job w.now run.pause w.tries run.phase)
    (attempt : run.attempt = w.run.attempt) (calls : run.calls = w.run.calls)
    (exhausted : ∀ stop, w.watchEnd job run = some stop →
      ∃ t, w.tries.head? = some t ∧ Exhausted job run t stop) :
    OnSchedule job ⟨w.now, setting, run, w.watch op job, w.watchEnd job run⟩ := by
  have watched : w.watch op job = w.tries := by simp only [World.watch, hp]
  rw [watched]
  exact
    { stands, exhausted
      chain := h.chain
      first := h.first
      latest := h.latest
      attempt := attempt.trans h.attempt
      calls := calls.trans h.calls
      guarded := h.guarded }

theorem pausing {f due} (h : OnSchedule job w) (hp : w.run.phase = .pausing f due) :
    ∃ t e, w.tries.head? = some t ∧ t.ending = some (e, .completed (.failure f)) ∧
      isFinal job.patterns f = false ∧ job.PausesAt t.number w.run.pause ∧
      due = e + job.pauseAfter t.number ∧ Waited job e due w.now := by
  have hstands := h.stands
  rw [hp] at hstands
  obtain ⟨now, setting, run, tries, exhausted⟩ := w
  cases hstands with
  | @pausing t tries e _ he hf hpause hw => exact ⟨t, e, rfl, he, hf, hpause, rfl, hw⟩

theorem step (h : OnSchedule job w) : OnSchedule job (w.step op job) := by
  unfold World.step
  split
  · rename_i run setting hs
    cases Stepped.of_step hs with
    | began hp hr => exact h.began hp hr
    | resumed hp hr => exact h.resumed hp hr
    | cut hp hend =>
      refine h.of_pause hp .ended rfl rfl fun stop hx => ?_
      simp only [World.watchEnd, hp, hend, Option.isNone_some, Bool.false_eq_true, if_false] at hx
      rw [h.not_exhausted (by rw [hp]; exact nofun)] at hx
      cases hx
    | exhausted hp hend hb spent =>
      refine h.of_pause hp .ended rfl rfl fun stop hx => ?_
      simp only [World.watchEnd, hp, hend, Option.isNone_none, if_true] at hx
      obtain rfl : w.now = stop := Option.some.inj hx
      obtain ⟨t, e, ht, he, hf, -, -, hw⟩ := h.pausing hp
      exact ⟨t, ht, ⟨e, _, _, he, hf, hb, hw.budgetStop hb spent, rfl⟩⟩
    | renewed hp _ hb past =>
      obtain ⟨t, e, ht, he, hf, hpause, rfl, hw⟩ := h.pausing hp
      obtain ⟨tries, htries⟩ : ∃ tries, w.tries = t :: tries := by
        cases htries : w.tries with
        | nil => rw [htries] at ht; cases ht
        | cons u tries => rw [htries] at ht; cases ht; exact ⟨tries, rfl⟩
      refine h.of_pause hp ?_ rfl rfl fun stop hx => ?_
      · rw [htries]
        exact .again he hf (hw.nextStart past) hb hpause.next
      · simp only [World.watchEnd, hp] at hx
        rw [h.not_exhausted (by rw [hp]; exact nofun)] at hx
        cases hx
  · exact h

theorem pass {instant : Nat} (h : OnSchedule job w) (may : w.mayPass op job instant = true) :
    OnSchedule job { w with now := instant } := by
  obtain ⟨idle, -, whole, within⟩ := World.mayPass_iff.1 may
  refine { h with stands := ?_ }
  obtain ⟨now, setting, run, tries, exhausted⟩ := w
  have hstands := h.stands
  simp only at hstands idle within ⊢
  cases hp : run.phase with
  | ready =>
    -- A run that is ready has something to do.
    simp only [Run.step, hp] at idle
    cases idle
  | trying s =>
    rw [hp] at hstands
    cases hstands with
    | trying open_ pause => exact .trying open_ pause
  | pausing f due =>
    obtain ⟨before, budget⟩ := step_pausing_eq_none hp idle
    simp only [Run.dues, hp] at within
    have hd := within due List.mem_cons_self before
    have hb (b) (hbe : job.budgetEnd = some b) : instant ≤ Instant.tick b := by
      refine within b (List.mem_cons_of_mem _ (List.mem_append_right _ ?_)) (budget b hbe)
      rw [hbe]
      exact List.mem_singleton_self b
    rw [hp] at hstands
    cases hstands with
    | pausing he hf pause hw => exact .pausing he hf pause (hw.pass before budget whole hd hb)
  | ended outcome => exact .ended

theorem apply (h : OnSchedule job w) (e : Event S) : OnSchedule job (w.apply op job e) := by
  cases e with
  | step => exact h.step
  | pass instant =>
    simp only [World.apply]
    split
    · rename_i may
      exact h.pass may
    · exact h
  | raise token | around site journal => exact { h with }

theorem initial (job : Job ι) (setting : Setting S) :
    OnSchedule job (World.initial job setting : World S σ α) where
  stands := .first rfl Job.pausesAt_initial
  chain := .nil
  first := nofun
  latest := nofun
  attempt := rfl
  calls := rfl
  guarded := nofun
  exhausted := nofun

end OnSchedule

/-- The tries are on schedule after every run. -/
theorem onSchedule_play (op : Operation S ι σ α) (job : Job ι) (setting : Setting S)
    (events : List (Event S)) : OnSchedule job (World.play op job setting events) := by
  induction events using List.reverseRecOn with
  | nil => exact .initial job setting
  | append_singleton events e ih =>
    rw [World.play_concat]
    exact ih.apply e

end CallGuard.Retry
