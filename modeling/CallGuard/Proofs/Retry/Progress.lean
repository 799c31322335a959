/-
Endless runs of a retried operation. A run never gets stuck: it can make a step, or the
clock can move on (`World.exists_goesOn`). An endless run in which one of the two happens
again and again, and in which no call goes on for ever, is lively (`Lively`). It ends, or it
makes one try after the other without end (`Lively.ends_or_tries`).
-/
import CallGuard.Proofs.Retry.Results

namespace CallGuard.Retry

variable {S ι σ α : Type}

theorem Run.phase_of_outcome? {run : Run σ α} {o : Outcome α} (h : run.outcome? = some o) :
    run.phase = .ended o := by
  unfold outcome? at h
  split at h
  · rename_i hp
    rw [hp, Option.some.inj h]
  · cases h

namespace World

variable {op : Operation S ι σ α} {job : Job ι} {w : World S σ α}

/-- An event with which a run gets on: a step that there is to make, or time that may pass. -/
def goesOn (op : Operation S ι σ α) (job : Job ι) (w : World S σ α) : Event S → Bool
  | .step => (w.run.step op job w.now w.setting).isSome
  | .pass instant => w.mayPass op job instant
  | .raise _ | .around _ _ => false

theorem mayPass_tick (idle : w.run.step op job w.now w.setting = none) :
    w.mayPass op job (Instant.tick (w.now + 1)) = true := by
  refine mayPass_iff.2 ⟨idle, Instant.le_tick (w.now + 1), ?_, ?_⟩
  · unfold Instant.tick
    omega
  · intro due _ later
    exact Instant.tick_le_tick later

/-- **A run never gets stuck.** -/
theorem exists_goesOn (op : Operation S ι σ α) (job : Job ι) (w : World S σ α) :
    ∃ e, w.goesOn op job e = true := by
  cases hs : w.run.step op job w.now w.setting with
  | none => exact ⟨.pass _, mayPass_tick hs⟩
  | some r => exact ⟨.step, by simp only [goesOn, hs, Option.isSome_some]⟩

/-- Nothing moves in a run that does not get on, whatever happens around it. -/
theorem apply_of_goesOn_eq_false {e : Event S} (h : w.goesOn op job e = false) :
    (w.apply op job e).run = w.run ∧ (w.apply op job e).now = w.now ∧
      (w.apply op job e).tries = w.tries := by
  cases e with
  | step =>
    have idle : w.run.step op job w.now w.setting = none :=
      Option.isNone_iff_eq_none.1 (Option.isSome_eq_false_iff.1 h)
    simp only [apply, step, idle, and_self]
  | pass instant =>
    have barred : w.mayPass op job instant = false := h
    simp only [apply, barred, Bool.false_eq_true, if_false, and_self]
  | raise token | around site journal => exact ⟨rfl, rfl, rfl⟩

theorem length_tries_step (ready : w.run.phase = .ready) :
    (w.step op job).tries.length = w.tries.length + 1 := by
  simp only [step, Run.step, ready, watch, List.length_cons]

theorem length_tries_le_step : w.tries.length ≤ (w.step op job).tries.length := by
  unfold step watch
  split
  · split
    · exact Nat.le_succ _
    · rename_i ht
      rw [ht]
      split <;> exact Nat.le_refl _
    · exact Nat.le_refl _
  · exact Nat.le_refl _

theorem length_tries_le_apply (e : Event S) : w.tries.length ≤ (w.apply op job e).tries.length := by
  cases e with
  | step => exact length_tries_le_step
  | pass instant =>
    simp only [apply]
    split <;> exact Nat.le_refl _
  | raise token | around site journal => exact Nat.le_refl _

end World

/-! ## Endless runs -/

/-- The first events of an endless run. -/
def upTo (events : Nat → Event S) (n : Nat) : List (Event S) := (List.range n).map events

theorem upTo_succ (events : Nat → Event S) (n : Nat) : upTo events (n + 1) = upTo events n ++ [events n] := by
  simp only [upTo, List.range_succ, List.map_append, List.map_cons, List.map_nil]

/-- The world after the first events of an endless run. -/
def World.after (op : Operation S ι σ α) (job : Job ι) (setting : Setting S) (events : Nat → Event S)
    (n : Nat) : World S σ α :=
  play op job setting (upTo events n)

/-- A run gets on again and again until it ends, and each call ends some time. -/
structure Lively (op : Operation S ι σ α) (job : Job ι) (setting : Setting S) (events : Nat → Event S) :
    Prop where
  goesOn : ∀ n, (∀ o, (World.after op job setting events n).run.phase ≠ .ended o) →
    ∃ m, n ≤ m ∧ (World.after op job setting events m).goesOn op job (events m) = true
  calls : ∀ n, ∃ m, n ≤ m ∧ ∀ s, (World.after op job setting events m).run.phase ≠ .trying s

variable {op : Operation S ι σ α} {job : Job ι} {setting : Setting S} {events : Nat → Event S}

theorem World.after_succ (n : Nat) : after op job setting events (n + 1) =
    (after op job setting events n).apply op job (events n) := by
  rw [after, upTo_succ, play_concat, after]

theorem World.length_tries_mono {n m : Nat} (le : n ≤ m) :
    (after op job setting events n).tries.length ≤ (after op job setting events m).tries.length := by
  induction le with
  | refl => exact Nat.le_refl _
  | step _ ih =>
    rw [after_succ]
    exact Nat.le_trans ih (length_tries_le_apply _)

theorem World.ended_mono {n m : Nat} (le : n ≤ m) {o : Outcome α}
    (ended : (after op job setting events n).run.phase = .ended o) :
    (after op job setting events m).run.phase = .ended o := by
  induction le with
  | refl => exact ended
  | step _ ih => rw [after_succ, (apply_of_ended ih _).1, ih]

theorem Lively.of_ended {n : Nat} {o : Outcome α}
    (ended : (World.after op job setting events n).run.phase = .ended o)
    (goesOn : ∀ k < n, (World.after op job setting events k).goesOn op job (events k) = true) :
    Lively op job setting events where
  goesOn k going := by
    by_cases h : k < n
    · exact ⟨k, Nat.le_refl k, goesOn k h⟩
    · exact absurd (World.ended_mono (Nat.le_of_not_lt h) ended) (going o)
  calls k := by
    refine ⟨max k n, Nat.le_max_left k n, fun s hp => ?_⟩
    rw [World.ended_mono (Nat.le_max_right k n) ended] at hp
    cases hp

namespace Lively

/-- Until a lively run gets on, all stays as it is. -/
theorem next (h : Lively op job setting events) (n : Nat)
    (going : ∀ o, (World.after op job setting events n).run.phase ≠ .ended o) :
    ∃ m, n ≤ m ∧ (World.after op job setting events m).goesOn op job (events m) = true ∧
      (World.after op job setting events m).run = (World.after op job setting events n).run ∧
      (World.after op job setting events m).now = (World.after op job setting events n).now ∧
      (World.after op job setting events m).tries = (World.after op job setting events n).tries := by
  obtain ⟨m, le, on⟩ := h.goesOn n going
  -- By induction on how far away the event is with which the run gets on.
  obtain ⟨d, rfl⟩ := Nat.exists_eq_add_of_le le
  induction d generalizing n with
  | zero => exact ⟨n, Nat.le_refl n, on, rfl, rfl, rfl⟩
  | succ d ih =>
    cases now : (World.after op job setting events n).goesOn op job (events n) with
    | true => exact ⟨n, Nat.le_refl n, now, rfl, rfl, rfl⟩
    | false =>
      obtain ⟨run, clock, tries⟩ := World.apply_of_goesOn_eq_false now
      rw [← World.after_succ] at run clock tries
      obtain ⟨m, hm, on', run', clock', tries'⟩ := ih (n + 1) (by rwa [run]) (by omega)
        (by rwa [show n + 1 + d = n + (d + 1) by omega])
      exact ⟨m, by omega, on', run'.trans run, clock'.trans clock, tries'.trans tries⟩

theorem tries_of_ready (h : Lively op job setting events) {n : Nat}
    (ready : (World.after op job setting events n).run.phase = .ready) :
    ∃ m, n ≤ m ∧
      (World.after op job setting events n).tries.length <
        (World.after op job setting events m).tries.length := by
  obtain ⟨m, le, on, run, -, tries⟩ := h.next n (by rw [ready]; exact nofun)
  rw [← run] at ready
  refine ⟨m + 1, Nat.le_succ_of_le le, ?_⟩
  rw [World.after_succ, ← tries]
  cases he : events m with
  | step =>
    simp only [World.apply, World.length_tries_step ready]
    omega
  | pass instant =>
    rw [he] at on
    have idle := (World.mayPass_iff.1 on).1
    simp only [Run.step, ready] at idle
    cases idle
  | raise token | around site journal =>
    rw [he] at on
    cases on

theorem renews_of_pausing (h : Lively op job setting events) {n : Nat} {f due}
    (pausing : (World.after op job setting events n).run.phase = .pausing f due) :
    ∃ m, n ≤ m ∧ ((World.after op job setting events m).run.phase = .ready ∨
      ∃ o, (World.after op job setting events m).run.phase = .ended o) := by
  -- By induction on the time that is left.
  induction left : Instant.tick due - (World.after op job setting events n).now
    using Nat.strong_induction_on generalizing n with
  | _ left ih =>
  subst left
  obtain ⟨m, le, on, run, clock, -⟩ := h.next n (by rw [pausing]; exact nofun)
  rw [← run] at pausing
  rw [← clock] at ih
  have next : World.after op job setting events (m + 1) =
      (World.after op job setting events m).apply op job (events m) := World.after_succ m
  generalize World.after op job setting events m = w at on pausing next ih
  cases he : events m with
  | step =>
    rw [he] at on next
    refine ⟨m + 1, Nat.le_succ_of_le le, ?_⟩
    rw [next]
    simp only [World.apply, World.step]
    cases hs : w.run.step op job w.now w.setting with
    | none =>
      simp only [World.goesOn, hs] at on
      cases on
    | some r =>
      obtain ⟨run', setting'⟩ := r
      cases Stepped.of_step hs with
      | began hp _ | resumed hp _ => rw [pausing] at hp; cases hp
      | cut _ _ | exhausted _ _ _ _ => exact .inr ⟨_, rfl⟩
      | renewed _ _ _ _ => exact .inl rfl
  | pass instant =>
    rw [he] at on next
    obtain ⟨idle, later, -, within⟩ := World.mayPass_iff.1 on
    have before := (step_pausing_eq_none pausing idle).1
    have reached : instant ≤ Instant.tick due := by
      refine within due ?_ before
      simp only [Run.dues, pausing, List.mem_cons, true_or]
    have passed : w.apply op job (.pass instant) = { w with now := instant } := if_pos on
    rw [passed] at next
    obtain ⟨m', le', hm'⟩ := ih (Instant.tick due - instant) (by omega) (n := m + 1)
      (by rw [next]; exact pausing) (by rw [next])
    exact ⟨m', by omega, hm'⟩
  | raise token | around site journal =>
    rw [he] at on
    cases on

/-- **A lively run ends or makes another try.** -/
theorem ends_or_tries (h : Lively op job setting events) (n : Nat) :
    (∃ m o, (World.after op job setting events m).run.phase = .ended o) ∨
      ∃ m, (World.after op job setting events n).tries.length <
        (World.after op job setting events m).tries.length := by
  have of_ready {k : Nat} (le : n ≤ k)
      (ready : (World.after op job setting events k).run.phase = .ready) :
      ∃ m, (World.after op job setting events n).tries.length <
        (World.after op job setting events m).tries.length := by
    obtain ⟨m, -, more⟩ := h.tries_of_ready ready
    exact ⟨m, Nat.lt_of_le_of_lt (World.length_tries_mono le) more⟩
  obtain ⟨k, le, idle⟩ := h.calls n
  cases hp : (World.after op job setting events k).run.phase with
  | ready => exact .inr (of_ready le hp)
  | trying s => exact absurd hp (idle s)
  | pausing f due =>
    obtain ⟨m, le', ready | ⟨o, ended⟩⟩ := h.renews_of_pausing hp
    · exact .inr (of_ready (Nat.le_trans le le') ready)
    · exact .inl ⟨m, o, ended⟩
  | ended o => exact .inl ⟨k, o, hp⟩

theorem ends_of_bounded (h : Lively op job setting events) {bound : Nat}
    (bounded : ∀ n, (World.after op job setting events n).tries.length ≤ bound) :
    ∃ n o, (World.after op job setting events n).run.phase = .ended o := by
  by_contra endless
  have more (k : Nat) : ∃ n, k ≤ (World.after op job setting events n).tries.length := by
    induction k with
    | zero => exact ⟨0, Nat.zero_le _⟩
    | succ k ih =>
      obtain ⟨n, hn⟩ := ih
      obtain ended | ⟨m, hm⟩ := h.ends_or_tries n
      · exact absurd ended endless
      · exact ⟨m, Nat.lt_of_le_of_lt hn hm⟩
  obtain ⟨n, hn⟩ := more (bound + 1)
  have := bounded n
  omega

end Lively

end CallGuard.Retry
