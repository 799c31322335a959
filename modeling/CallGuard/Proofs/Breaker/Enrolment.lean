/-
Calls through a circuit are on a roster: whatever uses the breaker there, the calls, those
that their operations make and those of hooks, is the begin or the end of a call of its own.
-/
import CallGuard.Proofs.Breaker.Law
import CallGuard.Proofs.Breaker.Roster

namespace CallGuard.Breaker

namespace Roster

/-- The uses of the breaker, in their order. -/
def touches (r : Roster) : List Touch := (r.log.map (·.record.touch)).reverse

theorem touches_use (r : Roster) (call : Nat) (t : Touch) : (r.use call t).touches = r.touches ++ [t] := by
  unfold touches use
  rw [List.map_cons, List.reverse_cons]

/-- Events lead from one roster to another, and these are the uses of the breaker in them. -/
structure Leads (r : Roster) (uses : List Touch) (r' : Roster) : Prop where
  run : ∃ events : List CallEvent, r' = events.foldl apply r
  touches : r'.touches = r.touches ++ uses

namespace Leads

variable {r r' r'' : Roster} {uses uses' : List Touch}

theorem refl (r : Roster) : Leads r [] r := ⟨⟨[], rfl⟩, (List.append_nil _).symm⟩

theorem trans (h : Leads r uses r') (h' : Leads r' uses' r'') : Leads r (uses ++ uses') r'' where
  run := by
    obtain ⟨events, rfl⟩ := h.run
    obtain ⟨events', rfl⟩ := h'.run
    exact ⟨events ++ events', List.foldl_append.symm⟩
  touches := by rw [h'.touches, h.touches, List.append_assoc]

theorem begin (r : Roster) (now : Nat) : Leads r [.ask now] (r.apply (.begin now)) where
  run := ⟨[.begin now], rfl⟩
  touches := touches_use r r.begun (.ask now)

theorem conclude {call : Nat} {t : Touch} {e : CallEvent} (inFlight : call ∈ r.inFlight)
    (he : r.apply e = r.conclude call t) :
    Leads r [t] { r.use call t with inFlight := r.inFlight.erase call } where
  run := ⟨[e], (he.trans (if_pos inFlight)).symm⟩
  touches := touches_use r call t

end Leads

/-- What leads from one circuit to another, calls do that begin and end meanwhile. -/
def Enrolled : Circuit.Course := fun c uses c' => ∀ r : Roster, r.breaker = c.breaker →
  ∃ r', Leads r uses r' ∧ r'.breaker = c'.breaker ∧ r.inFlight.Sublist r'.inFlight

section Circuits

open Circuit

variable {hears : Notice → Bool} {listen : Listener} {echo : Echo} {c c' c'' : Circuit}
  {uses uses' : List Touch}

theorem Enrolled.of_same (same : c'.breaker = c.breaker) : Enrolled c [] c' :=
  fun r hb => ⟨r, .refl r, hb.trans same.symm, .refl _⟩

theorem Enrolled.trans (h : Enrolled c uses c') (h' : Enrolled c' uses' c'') :
    Enrolled c (uses ++ uses') c'' := by
  intro r hb
  obtain ⟨r₁, leads, hb₁, kept⟩ := h r hb
  obtain ⟨r₂, leads', hb₂, kept'⟩ := h' r₁ hb₁
  exact ⟨r₂, leads.trans leads', hb₂, kept.trans kept'⟩

section Listening

variable (h : ∀ notice c, Enrolled c (echo notice c) (listen notice c))
include h

theorem announce_enrolled (change : Option CircuitChange) (c : Circuit) :
    Enrolled c (announceTouches echo change c) (announce listen change c) := by
  cases change with
  | none => exact .of_same rfl
  | some change =>
    have logged : Enrolled c [] (c.log (.circuitChanged change)) := .of_same rfl
    exact logged.trans (h _ _)

theorem ask_enrolled (c : Circuit) (r : Roster) (hb : r.breaker = c.breaker) :
    ∃ r', Leads r (askTouches echo c) r' ∧ r'.breaker = (c.ask listen).2.breaker ∧
      (if (c.ask listen).1 then r.begun :: r.inFlight else r.inFlight).Sublist r'.inFlight := by
  have leads := Leads.begin r c.now
  have asked : (r.apply (.begin c.now)).breaker = (c.breaker.ask c.now).2.1 := by
    rw [← hb]
    rfl
  obtain ⟨r', more, hb', kept⟩ := announce_enrolled h (c.breaker.ask c.now).2.2
    { c with breaker := (c.breaker.ask c.now).2.1 } _ asked
  rw [apply, hb] at kept
  exact ⟨r', leads.trans more, hb', kept⟩

theorem conclude_enrolled {α : Type} (outcome : Outcome α) (c : Circuit) (r : Roster)
    (hb : r.breaker = c.breaker) {call : Nat} (inFlight : call ∈ r.inFlight) :
    ∃ r', Leads r (concludeTouches listen echo outcome c) r' ∧
      r'.breaker = (Circuit.conclude listen outcome c).breaker ∧ (r.inFlight.erase call).Sublist r'.inFlight := by
  cases outcome with
  | panic message => exact ⟨r, .refl r, hb, List.erase_sublist⟩
  | value a =>
    have leads := Leads.conclude (e := .succeed call) inFlight rfl
    have told := announce_enrolled h c.breaker.succeed.2 { c with breaker := c.breaker.succeed.1 }
    obtain ⟨r', more, hb', kept⟩ := told
      { r.use call .succeed with inFlight := r.inFlight.erase call } (congrArg (·.touch .succeed) hb)
    exact ⟨r', leads.trans more, hb', kept⟩
  | failure f =>
    have leads := Leads.conclude (e := .fail call c.now) inFlight rfl
    have told := (announce_enrolled h (c.breaker.fail c.now).2
      { c with breaker := (c.breaker.fail c.now).1 }).trans (h (.failed f) _)
    obtain ⟨r', more, hb', kept⟩ := told
      { r.use call (.fail c.now) with inFlight := r.inFlight.erase call } (congrArg (·.touch (.fail c.now)) hb)
    exact ⟨r', leads.trans more, hb', kept⟩

end Listening

mutual

theorem perform_enrolled (h : ∀ notice c, Enrolled c (echo notice c) (listen notice c)) :
    ∀ (call : Call) (c : Circuit),
      Enrolled c (performTouches listen echo call c) (perform listen call c).2
  | .mk inner takes outcome, c => by
    intro r hb
    obtain ⟨r₁, asked, hb₁, kept⟩ := ask_enrolled h c r hb
    simp only [performTouches, perform]
    cases hadmitted : (c.ask listen).1 with
    | false =>
      simp only [hadmitted, Bool.false_eq_true, if_false] at kept ⊢
      rw [List.append_nil]
      exact ⟨r₁, asked, hb₁, kept⟩
    | true =>
      simp only [hadmitted, if_true] at kept ⊢
      obtain ⟨r₂, worked, hb₂, kept₂⟩ := performAll_enrolled h inner (c.ask listen).2 r₁ hb₁
      obtain ⟨r₃, concluded, hb₃, kept₃⟩ := conclude_enrolled h outcome
        { (performAll listen inner (c.ask listen).2).2 with
          now := (performAll listen inner (c.ask listen).2).2.now + takes }
        r₂ hb₂ ((kept.trans kept₂).subset List.mem_cons_self)
      have others := (kept.trans kept₂).erase r.begun
      rw [List.erase_cons_head] at others
      exact ⟨r₃, asked.trans (worked.trans concluded), hb₃, others.trans kept₃⟩

theorem performAll_enrolled (h : ∀ notice c, Enrolled c (echo notice c) (listen notice c)) :
    ∀ (calls : List Call) (c : Circuit),
      Enrolled c (performAllTouches listen echo calls c) (performAll listen calls c).2
  | [], c => .of_same rfl
  | call :: calls, c => by
    simp only [performAllTouches, performAll]
    exact (perform_enrolled h call c).trans (performAll_enrolled h calls _)

end

/-- Hooks make calls, and nothing else. -/
theorem hooks_enrolled (hooks : Hooks) (depth : Nat) (notice : Notice) (c : Circuit) :
    Enrolled c (hookTouches hooks depth notice c) (runHooks hooks depth notice c) := by
  induction depth generalizing notice c with
  | zero =>
    unfold runHooks hookTouches
    split <;> exact .of_same rfl
  | succ depth ih =>
    unfold runHooks hookTouches
    split
    · cases hooks.reaction notice with
      | none => exact .of_same rfl
      | some call =>
        have heard : Enrolled c [] (c.hear notice) := .of_same rfl
        have called := heard.trans ((perform_enrolled ih call (c.hear notice)).trans (.of_same rfl))
        rw [List.append_nil] at called
        exact called
    · exact .of_same rfl

/-- A roster for a world. A call that is abandoned in the world never ends on the roster. -/
structure Lists (b : Breaker) (w : World) (r : Roster) : Prop where
  leads : Leads (.initial b) w.touches r
  breaker : r.breaker = w.circuit.breaker
  inFlight : w.inFlight ≤ r.inFlight.length

theorem Lists.of_enrolled {b : Breaker} {w : World} {r : Roster} (h : Lists b w r)
    (enrolled : Enrolled w.circuit uses c) (inFlight : Nat) (fewer : inFlight ≤ w.inFlight) :
    ∃ r', Lists b ⟨c, inFlight, w.touches ++ uses⟩ r' := by
  obtain ⟨r', leads, hb, kept⟩ := enrolled r h.breaker
  exact ⟨r', h.leads.trans leads, hb, Nat.le_trans fewer (Nat.le_trans h.inFlight kept.length_le)⟩

theorem Lists.apply {b : Breaker} {w : World} {r : Roster} (h : Lists b w r) (hooks : Hooks) (depth : Nat)
    (e : Circuit.Event) : ∃ r', Lists b (w.apply hooks depth e) r' := by
  have enrolled := hooks_enrolled hooks depth
  cases e with
  | perform call => exact h.of_enrolled (perform_enrolled enrolled call w.circuit) _ (Nat.le_refl _)
  | drop => exact ⟨r, h.leads, h.breaker, Nat.le_trans (Nat.sub_le _ _) h.inFlight⟩
  | pass d => exact ⟨r, h.leads, h.breaker, h.inFlight⟩
  | begin =>
    obtain ⟨r', leads, hb, kept⟩ := ask_enrolled enrolled w.circuit r h.breaker
    refine ⟨r', h.leads.trans leads, hb, Nat.le_trans ?_ kept.length_le⟩
    simp only [World.apply]
    split
    · exact Nat.succ_le_succ h.inFlight
    · exact h.inFlight
  | finish outcome =>
    simp only [World.apply]
    split
    · exact ⟨r, h⟩
    · rename_i some
      obtain ⟨call, inFlight⟩ := List.exists_mem_of_length_pos
        (Nat.lt_of_lt_of_le (Nat.pos_of_ne_zero some) h.inFlight)
      obtain ⟨r', leads, hb, kept⟩ := conclude_enrolled enrolled outcome w.circuit r h.breaker inFlight
      refine ⟨r', h.leads.trans leads, hb, ?_⟩
      have fewer := kept.length_le
      rw [List.length_erase_of_mem inFlight] at fewer
      exact Nat.le_trans (Nat.sub_le_sub_right h.inFlight 1) fewer

theorem exists_lists (b : Breaker) (hooks : Hooks) (depth : Nat) (events : List Circuit.Event) :
    ∃ r, Lists b (World.play hooks depth b events) r := by
  induction events using List.reverseRecOn with
  | nil => exact ⟨.initial b, .refl _, rfl, Nat.le_refl 0⟩
  | append_singleton events e ih =>
    obtain ⟨r, h⟩ := ih
    rw [World.play_concat]
    exact h.apply hooks depth e

/-- What uses the breaker in a world are the calls of some roster. -/
theorem exists_play (b : Breaker) (hooks : Hooks) (depth : Nat) (events : List Circuit.Event) :
    ∃ calls, (play b calls).touches = (World.play hooks depth b events).touches := by
  obtain ⟨r, h⟩ := exists_lists b hooks depth events
  obtain ⟨calls, run⟩ := h.leads.run
  have same : play b calls = r := run.symm
  exact ⟨calls, same ▸ h.leads.touches⟩

end Circuits

end Roster

end CallGuard.Breaker
