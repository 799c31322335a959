/-
What closes a half-open breaker: the second success since it became half open, whichever
call that is and whichever the first was. So where only calls succeed that were admitted
since then, two of them have succeeded; but a call from before the breaker opened counts as
well.
-/
import CallGuard.Proofs.Breaker.Enrolment

namespace CallGuard.Breaker

namespace Roster

variable {r : Roster} {call : Nat} {t : Touch}

/-- The calls that have begun. -/
def asked (r : Roster) : List Nat := (r.log.filter (·.isAsk)).map (·.call)

theorem asked_eq (r : Roster) : r.asked = r.probes ++ r.stale := by
  unfold asked probes stale
  rw [← List.map_append, ← List.filter_append, List.append_assoc, ← r.log_eq]

theorem mem_succeeded_of_mem_successes {i : Nat} (h : i ∈ r.successes) : i ∈ r.succeeded := by
  unfold succeeded
  rw [r.log_eq, List.filter_append, List.map_append]
  exact List.mem_append_left _ h

theorem length_successes (r : Roster) : r.successes.length = r.history.inState.successes := by
  unfold successes period history History.inState History.successes
  rw [List.takeWhile_map, List.countP_map, List.length_map, ← List.countP_eq_length_filter]
  rfl

/-! ## One more use -/

theorem log_use (r : Roster) (call : Nat) (t : Touch) : (r.use call t).log =
    ⟨call, ⟨t, r.breaker.state, (r.breaker.touch t).state⟩⟩ :: r.log := rfl

theorem entry_use_of_eq (same : (r.breaker.touch t).state = r.breaker.state) :
    (r.use call t).entry = r.entry := by
  have stayed : Use.stayed ⟨call, ⟨t, r.breaker.state, (r.breaker.touch t).state⟩⟩ = true :=
    beq_iff_eq.2 same.symm
  unfold entry
  rw [log_use, List.dropWhile_cons_of_pos stayed]

theorem entry_use_of_ne (turned : (r.breaker.touch t).state ≠ r.breaker.state) : (r.use call t).entry =
    some ⟨call, ⟨t, r.breaker.state, (r.breaker.touch t).state⟩⟩ := by
  have left : ¬ Use.stayed ⟨call, ⟨t, r.breaker.state, (r.breaker.touch t).state⟩⟩ = true :=
    fun he => turned (beq_iff_eq.1 he).symm
  unfold entry
  rw [log_use, List.dropWhile_cons_of_neg left]
  rfl

/-- A roster tells of each call once: it begins, and then it may end. -/
structure Sound (r : Roster) : Prop where
  told : Told r.breaker r.history
  fits : r.breaker.threshold ≤ Word.last
  numbered : ∀ i ∈ r.asked, i < r.begun
  once : r.asked.Nodup
  flight : r.inFlight.Nodup
  began : ∀ i, i ∈ r.inFlight ∨ i ∈ r.succeeded → i ∈ r.asked
  ended : ∀ i ∈ r.succeeded, i ∉ r.inFlight
  /-- A half-open breaker became so when a call asked it while it was open. -/
  entered : r.breaker.state = .halfOpen → ∃ i now, r.entry = some ⟨i, ⟨.ask now, .opened, .halfOpen⟩⟩

namespace Sound

theorem initial (threshold : UInt64) (resetTimeout : Nat) :
    Sound (Roster.initial (Breaker.new threshold.toNat resetTimeout)) where
  told := .new _ _
  fits := Circuit.threshold_new_le threshold resetTimeout
  numbered := nofun
  once := .nil
  flight := .nil
  began _ h := h.elim nofun nofun
  ended := nofun
  entered := nofun

theorem told_use (h : Sound r) (call : Nat) (t : Touch) :
    Told (r.use call t).breaker (r.use call t).history :=
  h.told.touched h.fits t

theorem fits_use (h : Sound r) (call : Nat) (t : Touch) : (r.use call t).breaker.threshold ≤ Word.last :=
  Nat.le_trans (Nat.le_of_eq (touch_settings r.breaker t).1) h.fits

theorem entered_use (h : Sound r) (call : Nat) (t : Touch)
    (halfOpen : (r.breaker.touch t).state = .halfOpen) :
    ∃ i now, (r.use call t).entry = some ⟨i, ⟨.ask now, .opened, .halfOpen⟩⟩ := by
  by_cases same : (r.breaker.touch t).state = r.breaker.state
  · rw [entry_use_of_eq same]
    exact h.entered (same.symm.trans halfOpen)
  · rw [entry_use_of_ne same, halfOpen]
    have turns := h.told.turns h.fits
    cases t with
    | ask now =>
      have turned := turns.ask now
      split at turned
      · rename_i opened
        exact ⟨call, now, by rw [opened.1]⟩
      · exact absurd turned same
    | succeed =>
      have turned := turns.succeed
      rw [halfOpen] at turned
      split at turned
      · cases turned
      · exact absurd (halfOpen.trans turned) same
    | fail now =>
      have turned := turns.fail now
      rw [halfOpen] at turned
      split at turned <;> cases turned

theorem begin (h : Sound r) (now : Nat) : Sound (r.apply (.begin now)) := by
  have fresh : r.begun ∉ r.asked := fun hm => Nat.lt_irrefl _ (h.numbered _ hm)
  have member {i : Nat} (hi : i ∈ (r.apply (.begin now)).inFlight) : i = r.begun ∨ i ∈ r.inFlight := by
    simp only [apply] at hi
    split at hi
    · exact List.mem_cons.1 hi
    · exact .inr hi
  refine
    { told := h.told_use r.begun (.ask now)
      fits := h.fits_use r.begun (.ask now)
      numbered := fun i hi => ?_
      once := List.nodup_cons.2 ⟨fresh, h.once⟩
      flight := ?_
      began := fun i hi => ?_
      ended := fun i hi hm => ?_
      entered := h.entered_use r.begun (.ask now) }
  · rcases List.mem_cons.1 hi with rfl | hi
    · exact Nat.lt_succ_self _
    · exact Nat.lt_succ_of_lt (h.numbered i hi)
  · simp only [apply]
    split
    · exact List.nodup_cons.2 ⟨fun hm => fresh (h.began _ (.inl hm)), h.flight⟩
    · exact h.flight
  · refine List.mem_cons.2 ?_
    rcases hi with hi | hi
    · exact (member hi).imp_right fun hm => h.began i (.inl hm)
    · exact .inr (h.began i (.inr hi))
  · rcases member hm with rfl | hm
    · exact fresh (h.began _ (.inr hi))
    · exact h.ended i hi hm

theorem conclude (h : Sound r) (call : Nat) (ends : ∀ now, t ≠ .ask now) : Sound (r.conclude call t) := by
  unfold Roster.conclude
  split
  · rename_i inFlight
    have asked : (r.use call t).asked = r.asked := by
      cases t with
      | ask now => exact absurd rfl (ends now)
      | succeed | fail now => rfl
    have succeeded {i : Nat} (hi : i ∈ (r.use call t).succeeded) : i = call ∨ i ∈ r.succeeded := by
      cases t with
      | ask now => exact absurd rfl (ends now)
      | succeed => exact List.mem_cons.1 hi
      | fail now => exact .inr hi
    exact
      { told := h.told_use call t
        fits := h.fits_use call t
        numbered := fun i hi => h.numbered i (asked ▸ hi)
        once := asked ▸ h.once
        flight := h.flight.erase call
        began := fun i hi => by
          have before : i ∈ r.asked := by
            rcases hi with hi | hi
            · exact h.began i (.inl (List.mem_of_mem_erase hi))
            · rcases succeeded hi with rfl | hi
              · exact h.began i (.inl inFlight)
              · exact h.began i (.inr hi)
          exact asked ▸ before
        ended := fun i hi hm => by
          rcases succeeded hi with rfl | hi
          · exact h.flight.not_mem_erase hm
          · exact h.ended i hi (List.mem_of_mem_erase hm)
        entered := h.entered_use call t }
  · exact h

theorem apply (h : Sound r) (e : CallEvent) : Sound (r.apply e) := by
  cases e with
  | begin now => exact h.begin now
  | succeed call => exact h.conclude call nofun
  | fail call now => exact h.conclude call nofun

theorem play (threshold : UInt64) (resetTimeout : Nat) (events : List CallEvent) :
    Sound (play (Breaker.new threshold.toNat resetTimeout) events) := by
  induction events using List.reverseRecOn with
  | nil => exact .initial threshold resetTimeout
  | append_singleton events e ih =>
    rw [play_concat]
    exact ih.apply e

theorem closes_iff (h : Sound r) (halfOpen : r.breaker.state = .halfOpen) (e : CallEvent) :
    (r.apply e).breaker.state = .closed ↔
      ∃ j, e = .succeed j ∧ j ∈ r.inFlight ∧ r.successes.length = 1 := by
  have stays {s : CircuitState} (hs : s = .halfOpen) : ¬ s = .closed := by
    rw [hs]
    decide
  cases e with
  | begin now =>
    refine iff_of_false (stays ?_) nofun
    exact (congrArg Breaker.state (touch_ask_halfOpen halfOpen now)).trans halfOpen
  | fail call now =>
    refine iff_of_false ?_ nofun
    simp only [Roster.apply, Roster.conclude]
    split
    · show ¬ (r.breaker.touch (.fail now)).state = .closed
      rw [touch_fail_halfOpen halfOpen]
      intro closed
      cases closed
    · exact stays halfOpen
  | succeed call =>
    simp only [Roster.apply, Roster.conclude, length_successes]
    have turns := (h.told.turns h.fits).succeed
    split
    · rename_i inFlight
      show (r.breaker.touch .succeed).state = .closed ↔ _
      rw [turns]
      split
      · rename_i second
        exact iff_of_true rfl ⟨call, rfl, inFlight, Nat.succ.inj second.2⟩
      · rename_i other
        refine iff_of_false (stays halfOpen) ?_
        rintro ⟨j, -, -, one⟩
        exact other ⟨halfOpen, congrArg Nat.succ one⟩
    · rename_i absent
      refine iff_of_false (stays halfOpen) ?_
      rintro ⟨j, he, inFlight, -⟩
      cases he
      exact absent inFlight

end Sound

/-- What closes a half-open breaker. -/
structure Closes (r : Roster) : Prop where
  /-- The call that found the breaker open is the first of those that count as probes. -/
  opened : r.breaker.state = .halfOpen → ∃ i now,
    r.entry = some ⟨i, ⟨.ask now, .opened, .halfOpen⟩⟩ ∧ i ∈ r.probes
  /-- Every call that is in flight or has succeeded began either since the breaker entered
  its state or before, and not both. -/
  sorted : ∀ i, i ∈ r.inFlight ∨ i ∈ r.succeeded → (i ∈ r.probes ↔ i ∉ r.stale)
  /-- It closes at the second success since it became half open, and at nothing else. -/
  second : r.breaker.state = .halfOpen → ∀ e, (r.apply e).breaker.state = .closed ↔
    ∃ j, e = .succeed j ∧ j ∈ r.inFlight ∧ r.successes.length = 1
  /-- The first was another call's. -/
  other : ∀ i ∈ r.successes, i ∉ r.inFlight
  /-- If no call that began before has succeeded since then, two different calls have that
  were admitted since then. -/
  probes : ∀ j, r.breaker.state = .halfOpen → (r.apply (.succeed j)).breaker.state = .closed →
    (∀ i ∈ j :: r.successes, i ∉ r.stale) →
      ∃ i, i ≠ j ∧ r.successes = [i] ∧ i ∈ r.probes ∧ j ∈ r.probes

theorem Sound.closes (sound : Sound r) : Closes r := by
  have sorted (i) (hi : i ∈ r.inFlight ∨ i ∈ r.succeeded) : i ∈ r.probes ↔ i ∉ r.stale := by
    have once := sound.once
    rw [r.asked_eq] at once
    constructor
    · exact fun probe stale => (List.nodup_append.1 once).2.2 i probe i stale rfl
    · intro fresh
      have began := sound.began i hi
      rw [r.asked_eq] at began
      exact (List.mem_append.1 began).resolve_right fresh
  have other (i) (hi : i ∈ r.successes) : i ∉ r.inFlight :=
    sound.ended i (mem_succeeded_of_mem_successes hi)
  refine
    { opened := fun halfOpen => ?_
      sorted := sorted
      second := sound.closes_iff
      other := other
      probes := fun j halfOpen closed fresh => ?_ }
  · obtain ⟨i, now, entry⟩ := sound.entered halfOpen
    refine ⟨i, now, entry, ?_⟩
    unfold Roster.probes
    rw [entry, List.filter_append, List.map_append]
    exact List.mem_append_right _ (List.mem_singleton_self i)
  · obtain ⟨_, he, inFlight, one⟩ := (sound.closes_iff halfOpen _).1 closed
    cases he
    obtain ⟨i, hi⟩ := List.length_eq_one_iff.1 one
    have success : i ∈ r.successes := hi ▸ List.mem_singleton_self i
    refine ⟨i, fun he => other i success (he ▸ inFlight), hi, ?_, ?_⟩
    · exact (sorted i (.inr (mem_succeeded_of_mem_successes success))).2
        (fresh i (List.mem_cons_of_mem _ success))
    · exact (sorted j (.inl inFlight)).2 (fresh j List.mem_cons_self)

/-- **What closes the circuit.** It holds of every run of calls through a breaker, in
whatever order they begin and end, and what uses a breaker in a world is such a run. -/
theorem play_closes (threshold : UInt64) (resetTimeout : Nat) :
    (∀ events, Closes (play (Breaker.new threshold.toNat resetTimeout) events)) ∧
    ∀ hooks depth events, ∃ calls, (play (Breaker.new threshold.toNat resetTimeout) calls).touches =
      (Circuit.World.play hooks depth (Breaker.new threshold.toNat resetTimeout) events).touches := by
  refine ⟨fun events => ?_, exists_play _⟩
  exact (Sound.play threshold resetTimeout events).closes

/-- Two calls that were admitted before the breaker opened close it again, while the only
call admitted since then is still in flight. -/
theorem closed_by_stale_calls :
    let halfOpen := play (.new 1 100000000)
      [.begin 0, .begin 0, .begin 0, .fail 2 0, .begin 101000000, .succeed 0]
    let closed := halfOpen.apply (.succeed 1)
    halfOpen.breaker.state = .halfOpen ∧ closed.breaker.state = .closed ∧
      halfOpen.probes = [3] ∧ 3 ∈ closed.inFlight ∧
      ¬ ∃ i j, i ≠ j ∧ i ∈ halfOpen.probes ∧ j ∈ halfOpen.probes ∧
        i ∈ closed.succeeded ∧ j ∈ closed.succeeded := by
  refine ⟨by decide, by decide, by decide, by decide, ?_⟩
  rintro ⟨i, j, -, probe, -, success, -⟩
  have only : ∀ i ∈ [3], i ∉ [1, 0] := by decide
  exact only i probe success

end Roster

end CallGuard.Breaker
