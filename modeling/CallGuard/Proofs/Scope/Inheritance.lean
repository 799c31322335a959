/-
The end of a scope is never taken back, and whatever inherits from the scope has ended at
least as gravely. Deadlines go from scope to scope, cancellations from token to token: a
scope is cancelled if and only if some scope with its own token, or with one that this was
derived from, was cancelled, whether before or after it was made.
-/
import CallGuard.Proofs.Moments
import CallGuard.Proofs.Scope.Forest

namespace CallGuard

theorem Signals.issued_raise (s : Signals) (t : Token) : (s.raise t).issued = s.issued := by
  unfold raise
  split <;> rfl

theorem Signals.mem_raised_raise {s : Signals} {t : Token} {a : Nat} :
    a ∈ (s.raise t).raised ↔ a ∈ s.raised ∨ a = t.id := by
  unfold raise
  split
  · rename_i already
    have already := List.contains_iff_mem.1 already
    exact ⟨.inl, fun h => h.elim id fun he => he ▸ already⟩
  · rw [List.mem_cons, or_comm]

namespace Scope

namespace Forest

variable {f f' : Forest} {e : Event} {x : Scope} {signals : Signals} {tokens : Family} {source : Option Nat}

/-! ## The families of a forest -/

/-- The families are those of the scopes. -/
structure Rooted (f : Forest) : Prop where
  issued : f.tokens.length = f.signals.issued
  counted : f.lineage.length = f.scopes.length
  older : f.tokens.Older
  /-- The token of a scope knows all that it was derived from. -/
  born : ∀ x ∈ f.scopes, x.token.id < f.tokens.length ∧
    ∀ a, a ∈ x.token.id :: x.token.ancestors ↔ f.tokens.Below x.token.id a
  inherits : ∀ j i, f.lineage.Parent j i →
    ∃ x y, f.scopes[i]? = some x ∧ f.scopes[j]? = some y ∧ Inherits x y

theorem kept_add {i : Nat} (h : f.scopes[i]? = some x) (made : Scope × Signals) (tokens : Family)
    (source : Option Nat) : (f.add made tokens source).scopes[i]? = some x :=
  (List.getElem?_append_left (List.getElem?_eq_some_iff.1 h).1).trans h

theorem Made.raised (m : Made f x signals tokens source) : signals.raised = f.signals.raised := by
  cases m <;> rfl

theorem Made.issued (m : Made f x signals tokens source) :
    signals.issued = f.signals.issued + tokens.length := by
  cases m <;> rfl

theorem Made.inherits (m : Made f x signals tokens source) {i : Nat} (hs : source = some i) :
    ∃ y, f.scopes[i]? = some y ∧ Inherits y x := by
  cases m with
  | rooted _ | shared _ _ => cases hs
  | cloned hy =>
    cases hs
    exact ⟨x, hy, .refl x⟩
  | @derived k y _ _ hy _ handed =>
    obtain ⟨rfl, own⟩ := handed i hs
    exact ⟨y, hy, own⟩

namespace Rooted

theorem empty : Rooted empty where
  issued := rfl
  counted := rfl
  older k p h := by cases h
  born := nofun
  inherits j i h := by cases h

theorem older_add (h : Rooted f) (m : Made f x signals tokens source) : Family.Older (f.tokens ++ tokens) := by
  cases m with
  | rooted _ => exact h.older.concat nofun
  | shared _ _ =>
    rw [List.append_nil]
    exact h.older
  | cloned _ =>
    rw [List.append_nil]
    exact h.older
  | @derived i y x source hy _ _ =>
    refine h.older.concat fun p hp => ?_
    cases hp
    exact (h.born y (List.mem_of_getElem? hy)).1

/-- The token of a new scope knows all that it was derived from. -/
theorem born_add (h : Rooted f) (m : Made f x signals tokens source) :
    x.token.id < (f.tokens ++ tokens).length ∧
      ∀ a, a ∈ x.token.id :: x.token.ancestors ↔ Family.Below (f.tokens ++ tokens) x.token.id a := by
  cases m with
  | rooted token =>
    rw [token, ← h.issued]
    refine ⟨by rw [List.length_append]; exact Nat.lt_succ_self _, fun a => ?_⟩
    have inside : ∀ p, (none : Option Nat) = some p → p < f.tokens.length := nofun
    rw [Family.below_concat h.older inside, List.mem_singleton]
    exact ⟨.inl, fun ha => ha.elim id fun ⟨p, hp, _⟩ => nomatch hp⟩
  | @shared i y _ hy token =>
    rw [token, List.append_nil]
    exact h.born y (List.mem_of_getElem? hy)
  | cloned hy =>
    rw [List.append_nil]
    exact h.born x (List.mem_of_getElem? hy)
  | @derived i y _ _ hy token _ =>
    obtain ⟨inside, family⟩ := h.born y (List.mem_of_getElem? hy)
    rw [token, Signals.child, ← h.issued]
    refine ⟨by rw [List.length_append]; exact Nat.lt_succ_self _, fun a => ?_⟩
    rw [Family.below_concat h.older (fun p hp => Option.some.inj hp ▸ inside), List.mem_cons, family]
    refine or_congr_right ⟨fun ha => ⟨_, rfl, ha⟩, ?_⟩
    rintro ⟨p, hp, ha⟩
    exact Option.some.inj hp ▸ ha

theorem add (h : Rooted f) (m : Made f x signals tokens source) :
    Rooted (f.add (x, signals) tokens source) := by
  refine ⟨?_, ?_, h.older_add m, fun z hz => ?_, fun j i step => ?_⟩
  · show (f.tokens ++ tokens).length = signals.issued
    rw [List.length_append, h.issued, m.issued]
  · show (f.lineage ++ [source]).length = (f.scopes ++ [x]).length
    rw [List.length_append, List.length_append, h.counted]
    rfl
  · rcases List.mem_append.1 hz with old | new
    · obtain ⟨inside, family⟩ := h.born z old
      have longer : z.token.id < (f.tokens ++ tokens).length := by
        rw [List.length_append]
        exact Nat.lt_of_lt_of_le inside (Nat.le_add_right _ _)
      exact ⟨longer, fun a => (family a).trans (Family.below_append h.older inside).symm⟩
    · rw [List.mem_singleton.1 new]
      exact h.born_add m
  · rcases Nat.lt_or_ge j f.lineage.length with old | new
    · obtain ⟨y, z, hy, hz, inherits⟩ := h.inherits j i ((Family.parent_append old).1 step)
      exact ⟨y, z, kept_add hy _ _ _, kept_add hz _ _ _, inherits⟩
    · have last : j = f.lineage.length := by
        have inside := (List.getElem?_eq_some_iff.1 step).1
        simp only [Forest.add, List.length_append, List.length_cons, List.length_nil] at inside
        omega
      subst last
      obtain ⟨y, hy, inherits⟩ := m.inherits (Family.parent_concat.1 step)
      refine ⟨y, x, kept_add hy _ _ _, ?_, inherits⟩
      rw [h.counted]
      exact List.getElem?_concat_length

theorem moved (h : Rooted f) (m : Moved f e f') : Rooted f' := by
  cases m with
  | nothing _ => exact h
  | made _ made => exact h.add made
  | cancelled _ => exact ⟨h.issued.trans (f.signals.issued_raise _).symm, h.counted, h.older, h.born, h.inherits⟩
  | passed d => exact ⟨h.issued, h.counted, h.older, h.born, h.inherits⟩

theorem play (events : List Event) : Rooted (play events) := by
  induction events using List.reverseRecOn with
  | nil => exact .empty
  | append_singleton events e ih =>
    rw [play_concat]
    exact ih.moved (.of_apply _ e)

end Rooted

/-! ## Cancellations -/

/-- In the course of a run a scope with this token was cancelled. -/
def Cancelled (events : List Event) (token : Nat) : Prop :=
  ∃ before i after y, events = before ++ .cancel i :: after ∧ (play before).scopes[i]? = some y ∧
    y.token.id = token

theorem cancelled_iff {events : List Event} {token : Nat} : Cancelled events token ↔
    ∃ before e after, events = before ++ e :: after ∧
      ∃ i y, e = .cancel i ∧ (play before).scopes[i]? = some y ∧ y.token.id = token := by
  constructor
  · rintro ⟨before, i, after, y, split, hy, ht⟩
    exact ⟨before, _, after, split, i, y, rfl, hy, ht⟩
  · rintro ⟨before, _, after, split, i, y, rfl, hy, ht⟩
    exact ⟨before, i, after, y, split, hy, ht⟩

theorem cancelled_concat {events : List Event} {token : Nat} : Cancelled (events ++ [e]) token ↔
    Cancelled events token ∨ ∃ i y, e = .cancel i ∧ (play events).scopes[i]? = some y ∧ y.token.id = token := by
  rw [cancelled_iff, cancelled_iff, exists_split_concat]

/-- The tokens that were cancelled are those of the scopes that were. -/
theorem raised_play (events : List Event) (token : Nat) :
    token ∈ (play events).signals.raised ↔ Cancelled events token := by
  induction events using List.reverseRecOn with
  | nil => exact ⟨nofun, fun ⟨before, i, after, y, he, _⟩ => by simp at he⟩
  | append_singleton events e ih =>
    rw [cancelled_concat, ← ih, play_concat]
    have m := Moved.of_apply (play events) e
    generalize (play events).apply e = f' at m
    have other (h : ∀ i y, e = .cancel i → (play events).scopes[i]? ≠ some y) :
        ¬ ∃ i y, e = .cancel i ∧ (play events).scopes[i]? = some y ∧ y.token.id = token :=
      fun ⟨i, y, he, hy, _⟩ => h i y he hy
    cases m with
    | nothing absent =>
      rw [or_iff_left (other fun i y he hy => by rw [absent i he] at hy; cases hy)]
    | made others made =>
      rw [or_iff_left (other fun i _ he _ => others i he)]
      exact iff_of_eq (congrArg (token ∈ ·) made.raised)
    | passed d => rw [or_iff_left (other nofun)]
    | @cancelled i x hx =>
      rw [Signals.mem_raised_raise]
      refine or_congr_right ⟨fun ht => ⟨i, x, rfl, hx, ht.symm⟩, ?_⟩
      rintro ⟨j, y, he, hy, ht⟩
      cases he
      rw [hx] at hy
      cases hy
      exact ht.symm

/-! ## Every run -/

/-- Scopes stay what they are, tokens stay cancelled, and the clock does not go back. -/
structure Extends (f f' : Forest) : Prop where
  scopes : ∀ (i : Nat) (x : Scope), f.scopes[i]? = some x → f'.scopes[i]? = some x
  raised : ∀ a ∈ f.signals.raised, a ∈ f'.signals.raised
  now : f.now ≤ f'.now

theorem Extends.refl (f : Forest) : Extends f f := ⟨fun _ _ h => h, fun _ h => h, Nat.le_refl _⟩

theorem Extends.moved {f₀ : Forest} (h : Extends f₀ f) (m : Moved f e f') : Extends f₀ f' := by
  cases m with
  | nothing _ => exact h
  | made _ made =>
    exact ⟨fun i x hx => kept_add (h.scopes i x hx) _ _ _, fun a ha => made.raised ▸ h.raised a ha, h.now⟩
  | cancelled _ =>
    exact ⟨h.scopes, fun a ha => Signals.mem_raised_raise.2 (.inl (h.raised a ha)), h.now⟩
  | passed d => exact ⟨h.scopes, h.raised, Nat.le_trans h.now (Nat.le_add_right _ _)⟩

theorem extends_play (before after : List Event) : Extends (play before) (play (before ++ after)) := by
  induction after using List.reverseRecOn with
  | nil =>
    rw [List.append_nil]
    exact .refl _
  | append_singleton after e ih =>
    rw [← List.append_assoc, play_concat]
    exact ih.moved (.of_apply _ e)

theorem Extends.severity_le (h : Extends f f') (x : Scope) :
    severity (f.ended? x) ≤ severity (f'.ended? x) := by
  refine severity_ended?_le (fun raised => ?_) fun d hd reached => ⟨d, hd, Nat.le_trans reached h.now⟩
  obtain ⟨a, ha, hr⟩ := Signals.isRaised_iff.1 raised
  exact Signals.isRaised_iff.2 ⟨a, ha, h.raised a hr⟩

theorem Rooted.severity_le (h : Rooted f) {i j : Nat} (below : f.lineage.Below j i) :
    ∀ {x y : Scope}, f.scopes[i]? = some x → f.scopes[j]? = some y →
      severity (f.ended? x) ≤ severity (f.ended? y) := by
  induction below using Relation.ReflTransGen.head_induction_on with
  | refl =>
    intro x y hx hy
    rw [hx] at hy
    cases hy
    exact Nat.le_refl _
  | head step _ ih =>
    intro x y hx hy
    obtain ⟨p, y', hp, hy', inherits⟩ := h.inherits _ _ step
    rw [hy] at hy'
    cases hy'
    exact Nat.le_trans (ih hx hp) (inherits.severity_le _ _)

/-- The law of scopes that were made, one out of the other, in the course of a run. -/
structure Inherited (events : List Event) (f : Forest) : Prop where
  /-- A scope stays what it is, and its end only grows more grave. -/
  lasting : ∀ before after, events = before ++ after → ∀ (i : Nat) (x : Scope), (play before).scopes[i]? = some x →
    f.scopes[i]? = some x ∧ severity ((play before).ended? x) ≤ severity (f.ended? x)
  /-- What inherits from a scope, over any number of scopes in between, has ended at least
  as gravely. -/
  inherited : ∀ (i j : Nat) (x y : Scope), f.scopes[i]? = some x → f.scopes[j]? = some y → f.lineage.Below j i →
    severity (f.ended? x) ≤ severity (f.ended? y)
  /-- A scope is cancelled if and only if, before or after it was made, a scope was cancelled
  that has its token, or one that its token was derived from. -/
  cancelled : ∀ x ∈ f.scopes, f.signals.isRaised x.token = true ↔ ∃ before i after y,
    events = before ++ .cancel i :: after ∧ (play before).scopes[i]? = some y ∧
      f.tokens.Below x.token.id y.token.id
  /-- To cancel a scope does nothing to scopes whose tokens are neither its own nor derived
  from that. -/
  apart : ∀ (i : Nat) (y : Scope), f.scopes[i]? = some y → ∀ x ∈ f.scopes, ¬ f.tokens.Below x.token.id y.token.id →
    (f.apply (.cancel i)).ended? x = f.ended? x

/-- **The end of a scope.** It holds of all scopes that come up in a run, in whatever order
they are made, cancelled and waited for. -/
theorem play_inherited (events : List Event) : Inherited events (play events) := by
  have rooted := Rooted.play events
  refine ⟨?_, fun i j x y hx hy below => rooted.severity_le below hx hy, fun x hx => ?_, ?_⟩
  · rintro before after rfl i x hx
    have kept := extends_play before after
    exact ⟨kept.scopes i x hx, kept.severity_le x⟩
  · rw [Signals.isRaised_iff]
    constructor
    · rintro ⟨a, ha, raised⟩
      obtain ⟨before, i, after, y, he, hy, rfl⟩ := (raised_play events a).1 raised
      exact ⟨before, i, after, y, he, hy, ((rooted.born x hx).2 _).1 ha⟩
    · rintro ⟨before, i, after, y, he, hy, below⟩
      exact ⟨y.token.id, ((rooted.born x hx).2 _).2 below,
        (raised_play events _).2 ⟨before, i, after, y, he, hy, rfl⟩⟩
  · intro i y hy x hx outside
    have cancelled : (play events).apply (.cancel i) =
        { play events with signals := (play events).signals.raise y.token } := by
      simp only [apply, withScope, hy, Option.elim_some]
    rw [cancelled]
    refine ended?_congr (Bool.eq_iff_iff.2 ?_) _
    rw [Signals.isRaised_raise]
    exact or_iff_left fun own => outside (((rooted.born x hx).2 _).1 own)

/-- A scope with a timeout is cancelled through another one around the same token, which
its deadline does not end; what it was made of is not cancelled. -/
example : let f := play [.new, .timeout 0 5, .wrap 1, .pass 9, .cancel 2]
    f.scopes.map f.ended? = [none, some .cancelled, some .cancelled] ∧
      (play [.new, .timeout 0 5, .wrap 1, .pass 9]).scopes.map
        (play [.new, .timeout 0 5, .wrap 1, .pass 9]).ended? = [none, some .deadlineExceeded, none] := by
  decide

end Forest

end Scope

end CallGuard
