/-
What is done for a call, thing by thing (`Deed`): the breaker is used, something is logged, hooks
are notified. Calls that are begun, ended and dropped in any order (`Desk`) each have a life of
their own (`Life`), and the circuit is what all that is done for them makes of it.
-/
import CallGuard.Breaker.Circuit
import CallGuard.Proofs.Breaker.History

namespace CallGuard.Circuit

open Breaker (Touch)

/-! ## What is done -/

/-- One thing that is done with a circuit. Whatever hooks do is done while they are notified. -/
inductive Deed where
  | use (t : Touch)
  | log (entry : Entry)
  | notify (notice : Notice)
  | pass (d : Nat)

/-- What a deed makes of a circuit. -/
def Deed.run (listen : Listener) (c : Circuit) : Deed → Circuit
  | .use t => { c with breaker := c.breaker.touch t }
  | .log entry => c.log entry
  | .notify notice => listen notice c
  | .pass d => { c with now := c.now + d }

/-- What is done about a change of state, if there was one. -/
def changeDeeds : Option CircuitChange → List Deed
  | none => []
  | some change => [.log (.circuitChanged change), .notify (.changed change)]

/-- What is done when a call asks to be let through. -/
def askDeeds (listen : Listener) (c : Circuit) : List Deed :=
  let (admitted, breaker, change) := c.breaker.ask c.now
  let state := (announce listen change { c with breaker := breaker }).breaker.state
  .use (.ask c.now) ::
    (changeDeeds change ++ [.log (if admitted then .callAdmitted state else .callRejected)])

/-- What is done when an admitted call has ended. -/
def concludeDeeds (c : Circuit) : Outcome Nat → List Deed
  | .value _ => .use .succeed :: changeDeeds c.breaker.succeed.2
  | .failure f =>
    .use (.fail c.now) :: (changeDeeds (c.breaker.fail c.now).2 ++ [.notify (.failed f)])
  | .panic _ => []

section Runs

variable (listen : Listener)

theorem run_changeDeeds (change : Option CircuitChange) (c : Circuit) :
    (changeDeeds change).foldl (Deed.run listen) c = announce listen change c := by
  cases change <;> rfl

theorem run_askDeeds (c : Circuit) : (askDeeds listen c).foldl (Deed.run listen) c = (c.ask listen).2 := by
  simp only [askDeeds, List.foldl_cons, List.foldl_append, List.foldl_nil, run_changeDeeds]
  rfl

theorem run_concludeDeeds (outcome : Outcome Nat) (c : Circuit) :
    (concludeDeeds c outcome).foldl (Deed.run listen) c = conclude listen outcome c := by
  cases outcome with
  | value n =>
    simp only [concludeDeeds, List.foldl_cons, run_changeDeeds]
    rfl
  | failure f =>
    simp only [concludeDeeds, List.foldl_cons, List.foldl_append, List.foldl_nil, run_changeDeeds]
    rfl
  | panic message => rfl

end Runs

/-! ## The life of a call -/

/-- What is done for a call that is admitted: if the breaker changes, the hook of changes is
notified first. -/
def admission (now : Nat) (change : Option CircuitChange) (state : CircuitState) : List Deed :=
  .use (.ask now) :: (changeDeeds change ++ [.log (.callAdmitted state)])

/-- Everything that is done for a call, in order, by the answer to it, if there is one. -/
inductive Life : Option CallResult → List Deed → Prop
  /-- The breaker is asked, and that is all. -/
  | rejected (now) : Life (some .rejected) [.use (.ask now), .log .callRejected]
  /-- As long as it has not ended, and ever after when it is dropped, only its admission. -/
  | unanswered (now change state) : Life none (admission now change state)
  | panicked (now change state) : Life (some .panicked) (admission now change state)
  | value (now change state n change') : Life (some (.value n))
      (admission now change state ++ .use .succeed :: changeDeeds change')
  /-- The failure is taken in, once; then the hook of changes is notified, if there is a change;
  then the hook of errors, once, of this failure. -/
  | failed (now change state f now' change') : Life (some (.failed f))
      (admission now change state ++ .use (.fail now') :: (changeDeeds change' ++ [.notify (.failed f)]))

theorem life_askDeeds (listen : Listener) (c : Circuit) :
    Life (if (c.ask listen).1 then none else some .rejected) (askDeeds listen c) := by
  have asked : (c.ask listen).1 = (c.breaker.ask c.now).1 := rfl
  rw [asked]
  unfold askDeeds Breaker.ask
  split
  · exact .unanswered _ none _
  · exact .unanswered _ none _
  · split
    · exact .unanswered _ _ _
    · exact .rejected _

theorem Life.conclude {deeds : List Deed} (h : Life none deeds) (outcome : Outcome Nat) (c : Circuit) :
    Life (some (resultOf outcome)) (deeds ++ concludeDeeds c outcome) := by
  cases h with
  | unanswered now change state =>
    cases outcome with
    | value n => exact .value _ _ _ _ _
    | failure f => exact .failed _ _ _ _ _ _
    | panic message =>
      rw [concludeDeeds, List.append_nil]
      exact .panicked _ _ _

/-! ## Calls one step at a time -/

/-- A step of somebody who makes calls. -/
inductive Step where
  /-- Another call asks to be let through. -/
  | begin
  /-- A call that was admitted ends. -/
  | finish (call : Nat) (outcome : Outcome Nat)
  | drop (call : Nat)
  | pass (d : Nat)

/-- A circuit with the calls on it, which have numbers in the order in which they were begun. -/
structure Desk where
  circuit : Circuit
  begun : Nat
  /-- Calls that were admitted and have neither ended nor been dropped. -/
  pending : List Nat
  /-- The answers to calls, the latest first. -/
  answers : List (Nat × CallResult)
  /-- What was done so far, and for which call. -/
  deeds : List (Option Nat × Deed)

namespace Desk

variable {listen : Listener} {c : Circuit}

/-- No call was made yet. -/
def opened (c : Circuit) : Desk := ⟨c, 0, [], [], []⟩

/-- What comes of a step. Nothing comes of the end of a call that is not pending. -/
def apply (listen : Listener) (d : Desk) : Step → Desk
  | .begin =>
    let (admitted, circuit) := d.circuit.ask listen
    { circuit := circuit
      begun := d.begun + 1
      pending := if admitted then d.begun :: d.pending else d.pending
      answers := if admitted then d.answers else (d.begun, .rejected) :: d.answers
      deeds := d.deeds ++ (askDeeds listen d.circuit).map (some d.begun, ·) }
  | .finish call outcome =>
    if call ∈ d.pending then
      { d with
        circuit := d.circuit.conclude listen outcome
        pending := d.pending.erase call
        answers := (call, resultOf outcome) :: d.answers
        deeds := d.deeds ++ (concludeDeeds d.circuit outcome).map (some call, ·) }
    else d
  | .drop call => { d with pending := d.pending.erase call }
  | .pass t =>
    { d with
      circuit := { d.circuit with now := d.circuit.now + t }
      deeds := d.deeds ++ [(none, .pass t)] }

/-- What comes of steps, one after the other. -/
def run (listen : Listener) (d : Desk) (steps : List Step) : Desk := steps.foldl (apply listen) d

theorem run_append (listen : Listener) (d : Desk) (steps steps' : List Step) :
    d.run listen (steps ++ steps') = (d.run listen steps).run listen steps' := List.foldl_append

theorem run_concat (listen : Listener) (d : Desk) (steps : List Step) (s : Step) :
    d.run listen (steps ++ [s]) = (d.run listen steps).apply listen s := by
  rw [run_append]
  rfl

/-- The answer to a call, among the answers so far. -/
def answer? (answers : List (Nat × CallResult)) (call : Nat) : Option CallResult :=
  (answers.find? (·.1 == call)).map (·.2)

/-- What was done for a call, among all that was done. -/
def deedsFor (deeds : List (Option Nat × Deed)) (call : Nat) : List Deed :=
  (deeds.filter (·.1 == some call)).map (·.2)

section Lists

variable {answers : List (Nat × CallResult)} {deeds : List (Option Nat × Deed)} {call other : Nat}

theorem answer?_cons_self (r : CallResult) : answer? ((call, r) :: answers) call = some r := by
  simp [answer?]

theorem answer?_cons_other (r : CallResult) (h : other ≠ call) :
    answer? ((other, r) :: answers) call = answer? answers call := by
  simp [answer?, h]

theorem answer?_eq_none (h : ∀ p ∈ answers, p.1 ≠ call) : answer? answers call = none := by
  rw [answer?, Option.map_eq_none_iff, List.find?_eq_none]
  intro p hp
  simpa using h p hp

theorem deedsFor_append_self (l : List Deed) :
    deedsFor (deeds ++ l.map (some call, ·)) call = deedsFor deeds call ++ l := by
  have all : (l.map (some call, ·)).filter (·.1 == some call) = l.map (some call, ·) := by
    rw [List.filter_eq_self]
    simp
  rw [deedsFor, List.filter_append, List.map_append, all, List.map_map]
  exact congrArg _ (List.map_id l)

theorem deedsFor_append_other {owner : Option Nat} (l : List Deed) (h : owner ≠ some call) :
    deedsFor (deeds ++ l.map (owner, ·)) call = deedsFor deeds call := by
  have none_here : (l.map (owner, ·)).filter (·.1 == some call) = [] := by
    rw [List.filter_eq_nil_iff]
    simp [h]
  rw [deedsFor, List.filter_append, none_here, List.append_nil]
  rfl

theorem foldl_append_deeds {listen : Listener} {c : Circuit} {owner : Option Nat} (l : List Deed) :
    ((deeds ++ l.map (owner, ·)).map (·.2)).foldl (Deed.run listen) c =
      l.foldl (Deed.run listen) ((deeds.map (·.2)).foldl (Deed.run listen) c) := by
  rw [List.map_append, List.map_map, List.foldl_append]
  exact congrArg (List.foldl _ _) (List.map_id l)

end Lists

/-! ### Every call has a life of its own -/

/-- How the calls on a desk stand, if the circuit was `c` at first. -/
structure Orderly (listen : Listener) (c : Circuit) (d : Desk) : Prop where
  /-- The circuit is what all that was done makes of it. -/
  circuit : (d.deeds.map (·.2)).foldl (Deed.run listen) c = d.circuit
  lives : ∀ call < d.begun, Life (answer? d.answers call) (deedsFor d.deeds call)
  /-- Nothing was done for calls that were not begun. -/
  unborn : ∀ call, d.begun ≤ call → deedsFor d.deeds call = []
  pending : ∀ call ∈ d.pending, call < d.begun ∧ answer? d.answers call = none
  single : d.pending.Nodup
  answered : ∀ p ∈ d.answers, p.1 < d.begun
  /-- What was done for no call is that time has passed. -/
  owned : ∀ p ∈ d.deeds, p.1 = none → ∃ t, p.2 = .pass t

namespace Orderly

theorem opened (listen : Listener) (c : Circuit) : Orderly listen c (.opened c) where
  circuit := rfl
  lives call hc := absurd hc (Nat.not_lt_zero call)
  unborn _ _ := rfl
  pending _ hc := absurd hc List.not_mem_nil
  single := .nil
  answered _ hp := absurd hp List.not_mem_nil
  owned _ hp := absurd hp List.not_mem_nil

theorem owned_append {d : Desk} (h : Orderly listen c d) (call : Nat) (l : List Deed) :
    ∀ p ∈ d.deeds ++ l.map (some call, ·), p.1 = none → ∃ t, p.2 = .pass t := by
  intro p hp unowned
  rcases List.mem_append.1 hp with hp | hp
  · exact h.owned p hp unowned
  · obtain ⟨deed, -, rfl⟩ := List.mem_map.1 hp
    cases unowned

theorem begin {d : Desk} (h : Orderly listen c d) : Orderly listen c (d.apply listen .begin) := by
  have fresh : answer? d.answers d.begun = none :=
    answer?_eq_none fun p hp => Nat.ne_of_lt (h.answered p hp)
  have asked := life_askDeeds listen d.circuit
  have news := (run_askDeeds listen d.circuit).symm
  simp only [Desk.apply]
  generalize d.circuit.ask listen = answer at asked news
  obtain ⟨admitted, circuit⟩ := answer
  simp only at asked news ⊢
  refine ⟨?_, fun call hc => ?_, fun call hc => ?_, fun call hc => ?_, ?_, fun p hp => ?_,
    h.owned_append d.begun _⟩
  · rw [foldl_append_deeds, h.circuit, news]
  · by_cases own : call = d.begun
    · subst own
      rw [deedsFor_append_self, h.unborn _ (Nat.le_refl _), List.nil_append]
      cases admitted with
      | true => simpa [fresh] using asked
      | false => simpa [answer?_cons_self] using asked
    · have old : call < d.begun := Nat.lt_of_le_of_ne (Nat.le_of_lt_succ hc) own
      rw [deedsFor_append_other _ (by simpa using Ne.symm own)]
      cases admitted with
      | true => exact h.lives call old
      | false => simpa [answer?_cons_other _ (Ne.symm own)] using h.lives call old
  · have later : d.begun + 1 ≤ call := hc
    rw [deedsFor_append_other _ (by simp; omega)]
    exact h.unborn call (by omega)
  · cases admitted with
    | true =>
      rcases List.mem_cons.1 hc with rfl | hc
      · exact ⟨Nat.lt_succ_self _, fresh⟩
      · obtain ⟨old, none⟩ := h.pending call hc
        exact ⟨Nat.lt_succ_of_lt old, none⟩
    | false =>
      obtain ⟨old, none⟩ := h.pending call hc
      refine ⟨Nat.lt_succ_of_lt old, ?_⟩
      simpa [answer?_cons_other _ (Nat.ne_of_gt old)] using none
  · cases admitted with
    | true => exact List.nodup_cons.2 ⟨fun hc => Nat.lt_irrefl _ (h.pending _ hc).1, h.single⟩
    | false => exact h.single
  · cases admitted with
    | true => exact Nat.lt_succ_of_lt (h.answered p hp)
    | false =>
      rcases List.mem_cons.1 hp with rfl | hp
      · exact Nat.lt_succ_self _
      · exact Nat.lt_succ_of_lt (h.answered p hp)

theorem finish {d : Desk} (h : Orderly listen c d) (call : Nat) (outcome : Outcome Nat) :
    Orderly listen c (d.apply listen (.finish call outcome)) := by
  simp only [Desk.apply]
  split
  · rename_i mine
    obtain ⟨old, unanswered⟩ := h.pending call mine
    refine ⟨?_, fun k hk => ?_, fun k hk => ?_, fun k hk => ?_, h.single.erase call, fun p hp => ?_,
      h.owned_append call _⟩
    · rw [foldl_append_deeds, h.circuit, run_concludeDeeds]
    · by_cases own : call = k
      · subst own
        have life := h.lives call old
        rw [unanswered] at life
        rw [deedsFor_append_self, answer?_cons_self]
        exact life.conclude outcome d.circuit
      · rw [deedsFor_append_other _ (by simpa using own), answer?_cons_other _ own]
        exact h.lives k hk
    · have later : d.begun ≤ k := hk
      rw [deedsFor_append_other _ (by simp; omega)]
      exact h.unborn k later
    · have other : k ≠ call := fun same => (h.single.not_mem_erase (same ▸ hk)).elim
      obtain ⟨older, none⟩ := h.pending k (List.mem_of_mem_erase hk)
      exact ⟨older, by rw [answer?_cons_other _ (Ne.symm other), none]⟩
    · rcases List.mem_cons.1 hp with rfl | hp
      · exact old
      · exact h.answered p hp
  · exact h

theorem apply {d : Desk} (h : Orderly listen c d) (s : Step) : Orderly listen c (d.apply listen s) := by
  cases s with
  | begin => exact h.begin
  | finish call outcome => exact h.finish call outcome
  | drop call =>
    exact ⟨h.circuit, h.lives, h.unborn, fun k hk => h.pending k (List.mem_of_mem_erase hk),
      h.single.erase call, h.answered, h.owned⟩
  | pass t =>
    have same (call : Nat) : deedsFor (d.deeds ++ [(none, .pass t)]) call = deedsFor d.deeds call :=
      deedsFor_append_other [.pass t] nofun
    refine ⟨?_, fun call hc => ?_, fun call hc => ?_, h.pending, h.single, h.answered,
      fun p hp unowned => ?_⟩
    · simp only [Desk.apply, List.map_append, List.foldl_append, h.circuit]
      rfl
    · rw [Desk.apply, same]
      exact h.lives call hc
    · rw [Desk.apply, same]
      exact h.unborn call hc
    · rcases List.mem_append.1 hp with hp | hp
      · exact h.owned p hp unowned
      · rw [List.mem_singleton.1 hp]
        exact ⟨t, rfl⟩

theorem run (listen : Listener) (c : Circuit) (steps : List Step) :
    Orderly listen c ((Desk.opened c).run listen steps) := by
  induction steps using List.reverseRecOn with
  | nil => exact .opened listen c
  | append_singleton steps s ih =>
    rw [run_concat]
    exact ih.apply s

/-- What was done was done for a call that was begun, or is that time has passed. -/
theorem owner {d : Desk} (h : Orderly listen c d) (owner : Option Nat) (deed : Deed)
    (done : (owner, deed) ∈ d.deeds) :
    (∃ call < d.begun, owner = some call) ∨ owner = none ∧ ∃ t, deed = .pass t := by
  cases owner with
  | none => exact .inr ⟨rfl, h.owned _ done rfl⟩
  | some call =>
    refine .inl ⟨call, Nat.lt_of_not_le fun unborn => ?_, rfl⟩
    have mine : deed ∈ deedsFor d.deeds call := by
      rw [deedsFor, List.mem_map]
      exact ⟨_, List.mem_filter.2 ⟨done, beq_self_eq_true _⟩, rfl⟩
    rw [h.unborn call unborn] at mine
    cases mine

end Orderly

/-- Once a call is not pending any more its answer stays what it is. -/
theorem answer?_apply (listen : Listener) {d : Desk} {call : Nat} (old : call < d.begun)
    (settled : call ∉ d.pending) (s : Step) :
    call < (d.apply listen s).begun ∧ call ∉ (d.apply listen s).pending ∧
      answer? (d.apply listen s).answers call = answer? d.answers call := by
  cases s with
  | begin =>
    simp only [Desk.apply]
    cases (d.circuit.ask listen).1 with
    | true =>
      refine ⟨Nat.lt_succ_of_lt old, fun hc => ?_, rfl⟩
      exact (List.mem_cons.1 hc).elim (Nat.ne_of_lt old) settled
    | false => exact ⟨Nat.lt_succ_of_lt old, settled, answer?_cons_other _ (Nat.ne_of_gt old)⟩
  | finish k outcome =>
    simp only [Desk.apply]
    split
    · rename_i mine
      refine ⟨old, fun hc => settled (List.mem_of_mem_erase hc), answer?_cons_other _ ?_⟩
      rintro rfl
      exact settled mine
    · exact ⟨old, settled, rfl⟩
  | drop k => exact ⟨old, fun hc => settled (List.mem_of_mem_erase hc), rfl⟩
  | pass t => exact ⟨old, settled, rfl⟩

end Desk

end CallGuard.Circuit
