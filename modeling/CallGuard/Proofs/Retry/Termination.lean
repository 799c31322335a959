/-
Retries end. The pauses between tries are positive from the second on, and a positive pause
ends on a whole millisecond, so the tries from the third on begin in different milliseconds
(`Ranked`). All of them begin within the budget, which bounds their number
(`Job.mostTries`), and a run that makes no more tries ends.
-/
import CallGuard.Proofs.Retry.Progress
import CallGuard.Proofs.Retry.Timing

namespace CallGuard.Retry

variable {S ι σ α : Type}

/-! ## Positive pauses -/

/-- The pauses of a policy do not stay zero. -/
def Policy.Waits (p : Policy) : Prop := 0 < p.initial ∨ 0 < p.step ∧ 0 < p.cap

/-- A pause is positive, or the next one is. -/
def Policy.Grows (p : Policy) (pause : Nat) : Prop := 0 < pause ∨ 0 < p.step ∧ 0 < p.cap

theorem Policy.Grows.next_pos {p : Policy} {pause : Nat} (h : p.Grows pause) (waits : p.Waits) :
    0 < p.next pause := by
  have le := p.initial_le_cap
  have longest : 0 < Span.longest := by decide +kernel
  unfold Policy.next Span.add
  rcases h with grown | ⟨step, cap⟩
  · rcases waits with first | ⟨-, cap⟩ <;> omega
  · omega

theorem Job.pauseAfter_pos {job : Job ι} (waits : job.policy.Waits) {k : Nat} (later : 1 ≤ k) :
    0 < job.pauseAfter k := by
  have le := job.policy.initial_le_cap
  have longest : 0 < Span.longestPause := by decide
  have grown : job.policy.step ≤ k * job.policy.step := Nat.le_mul_of_pos_left _ later
  unfold Job.pauseAfter
  rcases waits with first | ⟨step, cap⟩ <;> omega

/-! ## When tries begin -/

/-- The tries of a world began in the past, and ended after they began. -/
structure Dated (w : World S σ α) : Prop where
  began : ∀ t ∈ w.tries, t.start ≤ w.now
  ended : ∀ t ∈ w.tries, ∀ e v, t.ending = some (e, v) → t.start ≤ e

theorem Try.ending_take {now : Nat} {t : Try α} {p : Progress σ (Verdict α)} {e : Nat} {v : Verdict α}
    (h : (t.take now p).ending = some (e, v)) : t.ending = some (e, v) ∨ e = now := by
  cases p with
  | waiting s => exact .inl h
  | finished verdict =>
    cases h
    exact .inr rfl

namespace Dated

variable {op : Operation S ι σ α} {job : Job ι} {w : World S σ α}

/-- What a step makes of the tries: they stay, or one begins, or the latest one goes on. -/
theorem mem_watch {t : Try α} (h : t ∈ w.watch op job) : t ∈ w.tries ∨
    ∃ (u : Try α) (p : Progress σ (Verdict α)), t = u.take w.now p ∧
      (u ∈ w.tries ∨ u.start = w.now ∧ u.ending = none) := by
  unfold World.watch at h
  split at h
  · rcases List.mem_cons.1 h with rfl | old
    · exact .inr ⟨_, _, rfl, .inr ⟨rfl, rfl⟩⟩
    · exact .inl old
  · rename_i u tries hp ht
    split at h
    · rcases List.mem_cons.1 h with rfl | old
      · exact .inr ⟨u, _, rfl, .inl (by rw [ht]; exact List.mem_cons_self)⟩
      · exact .inl (by rw [ht]; exact List.mem_cons_of_mem _ old)
    · exact .inl (by rw [ht]; exact h)
  · exact .inl h

theorem step (h : Dated w) : Dated (w.step op job) := by
  unfold World.step
  split
  · constructor
    · intro t ht
      rcases mem_watch ht with old | ⟨u, p, rfl, old | ⟨start, -⟩⟩
      · exact h.began t old
      · rw [Try.start_take]
        exact h.began u old
      · rw [Try.start_take]
        exact Nat.le_of_eq start
    · intro t ht e v he
      rcases mem_watch ht with old | ⟨u, p, rfl, old | ⟨start, open_⟩⟩
      · exact h.ended t old e v he
      · rw [Try.start_take]
        rcases Try.ending_take he with before | rfl
        · exact h.ended u old e v before
        · exact h.began u old
      · rw [Try.start_take, start]
        rcases Try.ending_take he with before | rfl
        · rw [open_] at before
          cases before
        · exact Nat.le_refl _
  · exact h

theorem apply (h : Dated w) (e : Event S) : Dated (w.apply op job e) := by
  cases e with
  | step => exact h.step
  | pass instant =>
    simp only [World.apply]
    split
    · rename_i may
      have later := (World.mayPass_iff.1 may).2.1
      exact ⟨fun t ht => Nat.le_trans (h.began t ht) (Nat.le_of_lt later), h.ended⟩
    · exact h
  | raise token | around site journal => exact ⟨h.began, h.ended⟩

theorem play (op : Operation S ι σ α) (job : Job ι) (setting : Setting S) (events : List (Event S)) :
    Dated (World.play op job setting events) := by
  induction events using List.reverseRecOn with
  | nil => exact ⟨nofun, nofun⟩
  | append_singleton events e ih =>
    rw [World.play_concat]
    exact ih.apply e

end Dated

/-! ## How many tries there are -/

/-- The tries from the third on begin on whole milliseconds, one or more from one to the
next. -/
structure Ranked (job : Job ι) (t : Try α) : Prop where
  started : job.started ≤ t.start
  late : 2 ≤ t.number →
    t.start % 1000000 = 0 ∧ job.started + (t.number - 2) * 1000000 < t.start

theorem Follows.ranked {job : Job ι} (waits : job.policy.Waits) {t u : Try α} (h : Follows job t u)
    (ended : ∀ e v, t.ending = some (e, v) → t.start ≤ e) (ranked : Ranked job t) : Ranked job u := by
  obtain ⟨e, f, he, -, start⟩ := h.paced
  have number := h.number
  have le := ended e _ he
  have from_ := ranked.started
  have late := ranked.late
  have not_before := Instant.le_tick (e + job.pauseAfter t.number)
  unfold Job.nextStart at start
  constructor
  · split at start <;> omega
  · intro third
    have pause := job.pauseAfter_pos waits (show 1 ≤ t.number by omega)
    rw [if_neg (by omega)] at start
    unfold Instant.tick at start
    by_cases second : t.number = 1
    · omega
    · -- The try before began on a whole millisecond, and this one on a later one.
      obtain ⟨whole, late⟩ := late (by omega)
      omega

variable {op : Operation S ι σ α} {job : Job ι} {w : World S σ α}

theorem OnSchedule.ranked (h : OnSchedule job w) (dated : Dated w) (waits : job.policy.Waits) :
    ∀ t ∈ w.tries, Ranked job t := by
  have chain := h.chain
  have first := h.first
  have ended := dated.ended
  generalize w.tries = tries at chain first ended
  induction tries with
  | nil => exact nofun
  | cons u tries ih =>
    cases tries with
    | nil =>
      intro t ht
      obtain ⟨number, start⟩ := first u rfl
      rw [List.mem_singleton.1 ht]
      exact ⟨Nat.le_of_eq start.symm, fun third => by omega⟩
    | cons v tries =>
      obtain ⟨follows, chain⟩ := List.isChain_cons_cons.1 chain
      have earlier := ih chain (fun t ht => first t (by rwa [List.getLast?_cons_cons]))
        fun t ht => ended t (List.mem_cons_of_mem _ ht)
      intro t ht
      rcases List.mem_cons.1 ht with rfl | ht
      · exact follows.ranked waits (ended v (List.mem_cons_of_mem _ List.mem_cons_self))
          (earlier v List.mem_cons_self)
      · exact earlier t ht

/-- The most tries there can be: one for each millisecond of the budget, a begun one counted
in full, and two more. -/
def Job.mostTries (job : Job ι) : Nat := (job.policy.budget + 999999) / 1000000 + 2

theorem OnSchedule.start_lt {b : Nat} (h : OnSchedule job w) (hb : job.budgetEnd = some b) {t u : Try α}
    {tries : List (Try α)} (latest : w.tries = u :: t :: tries) : u.start < b := by
  have chain := h.chain
  rw [latest] at chain
  exact (List.isChain_cons_cons.1 chain).1.budget b hb

theorem OnSchedule.length_tries_le (h : OnSchedule job w) (dated : Dated w) (waits : job.policy.Waits)
    {b : Nat} (hb : job.budgetEnd = some b) : w.tries.length ≤ job.mostTries := by
  unfold Job.mostTries
  have hbudget := (Instant.after?_eq_some hb).1
  cases ht : w.tries with
  | nil => exact Nat.zero_le _
  | cons u tries =>
    cases tries with
    | nil => exact Nat.le_add_left 1 _
    | cons t tries =>
      have number := h.latest u (by rw [ht]; rfl)
      have start := h.start_lt hb ht
      have late := (h.ranked dated waits u (by rw [ht]; exact List.mem_cons_self)).late
      rw [ht] at number
      by_cases third : 2 ≤ u.number
      · have late := (late third).2
        omega
      · omega

/-! ## Every run -/

/-- What a retried operation promises about its end, whatever its calls do. -/
structure Terminating (op : Operation S ι σ α) (job : Job ι) (setting : Setting S) : Prop where
  /-- Operations are started at most so many times. -/
  few : ∀ events, (World.play op job setting events).run.attempt ≤ job.mostTries ∧
    (World.play op job setting events).launches ≤ job.mostTries
  /-- No run gets stuck. -/
  goesOn : ∀ events, ∃ e, (World.play op job setting events).goesOn op job e = true
  /-- A run that gets on, and whose calls end, returns, unless the latest call panicked. -/
  ends : ∀ events, Lively op job setting events → ∃ n outcome,
    (World.after op job setting events n).run.phase = .ended outcome ∧
      ((∃ r, returned? outcome = some r) ∨
        ∃ t e message, (World.after op job setting events n).tries.head? = some t ∧
          t.ending = some (e, .completed (.panic message)) ∧ outcome = .panic message)

/-- **Retries end.** If the pauses do not stay zero and the budget ends before the clock
does, there are only so many tries, and the run ends. -/
theorem play_terminating (op : Operation S ι σ α) (job : Job ι) (setting : Setting S)
    (waits : job.policy.Waits) {b : Nat} (budget : job.budgetEnd = some b) :
    Terminating op job setting := by
  have bound (events : List (Event S)) :
      (World.play op job setting events).tries.length ≤ job.mostTries :=
    (onSchedule_play op job setting events).length_tries_le (.play op job setting events) waits budget
  constructor
  · intro events
    rw [(onSchedule_play op job setting events).attempt]
    exact ⟨bound events, Nat.le_trans List.countP_le_length (bound events)⟩
  · intro events
    exact World.exists_goesOn op job _
  · intro events lively
    obtain ⟨n, outcome, ended⟩ := lively.ends_of_bounded fun n => bound (upTo events n)
    refine ⟨n, outcome, ended, ?_⟩
    cases outcome with
    | value a => exact .inl ⟨.ok a, rfl⟩
    | failure f => exact .inl ⟨.error f, rfl⟩
    | panic message =>
      obtain ⟨before, after, t, -, last, -, tries⟩ := lastStep_play op job setting (upTo events n) ended
      have latest := last.latest
      rw [← tries] at latest
      exact .inr ⟨t, _, message, latest, last.panicked message rfl, rfl⟩

/-- An operation that fails at once, over and over: its first pause takes no time, so two of
its tries begin at the start. Three is the most that a budget of a millisecond allows. -/
theorem three_tries_in_a_millisecond :
    let op : Operation Unit Unit (Scope × Activity Nat) Nat :=
      .scripted (fun _ _ => .finish (.failure (.plain "connection reset"))) (fun _ _ s => s) (fun _ s => s)
    let job : Job Unit := ⟨(), ⟨⟨0, []⟩, none⟩, .new 1000000 0 1 1, [], 500000⟩
    let setting : Setting Unit := ⟨.empty, [], ()⟩
    let events : Nat → Event Unit := fun n =>
      if n = 3 then .pass 1000000 else if n = 6 then .pass 2000000 else .step
    Terminating op job setting ∧ Lively op job setting events ∧ job.mostTries = 3 ∧
      (World.after op job setting events 8).tries.map (·.start) = [1000000, 500000, 500000] ∧
      (World.after op job setting events 8).run.outcome? =
        some (.failure (.exhausted 1500000 3 (.plain "connection reset"))) := by
  intro op job setting events
  have returned : (World.after op job setting events 8).run.outcome? =
      some (.failure (.exhausted 1500000 3 (.plain "connection reset"))) := by decide +kernel
  have ended := Run.phase_of_outcome? returned
  have goesOn : ∀ k < 8, (World.after op job setting events k).goesOn op job (events k) = true := by
    decide +kernel
  exact ⟨play_terminating op job setting (.inr (by decide)) (b := 1500000) (by decide +kernel),
    .of_ended ended goesOn, by decide +kernel, by decide +kernel, returned⟩

end CallGuard.Retry
