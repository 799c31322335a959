/-
Scopes over time: they are made anew, around tokens and out of one another, some are
cancelled, and time passes. A run is any list of these events, in any order.

Beside the scopes stand the two families that they make: tokens derived from tokens, and
scopes that inherit from scopes. They are written down as scopes come up and never read
by them. To wrap a token changes nothing about it, so every token is taken to be that
of some scope.
-/
import CallGuard.Proofs.Scope.End
import Mathlib.Data.List.Induction
import Mathlib.Logic.Relation

namespace CallGuard.Scope

/-- What happens to scopes. A scope is meant by its place in the order in which they
were made. -/
inductive Event where
  | new
  /-- Wraps a token that was made for it. -/
  | wrapFresh
  /-- Wraps the token of a scope once more. -/
  | wrap (i : Nat)
  /-- Wraps a token that was derived from the token of a scope. -/
  | wrapBelow (i : Nat)
  | clone (i : Nat)
  | child (i : Nat)
  | timeout (i : Nat) (d : Nat)
  | cancel (i : Nat)
  | pass (d : Nat)

/-! ## Families -/

/-- For each member, by its number, the one that it comes from. -/
abbrev Family := List (Option Nat)

namespace Family

variable {l l' : Family} {k a : Nat}

/-- `k` was made of `p`. -/
def Parent (l : Family) (k p : Nat) : Prop := l[k]? = some (some p)

/-- A member comes from another in any number of steps, or is that one. -/
def Below (l : Family) (k a : Nat) : Prop := Relation.ReflTransGen l.Parent k a

/-- Members come after those they come from. -/
def Older (l : Family) : Prop := ∀ k p, l.Parent k p → p < k

theorem Parent.append {p : Nat} (h : l.Parent k p) (l' : Family) : (l ++ l' : Family).Parent k p := by
  have inside : k < l.length := (List.getElem?_eq_some_iff.1 h).1
  exact (List.getElem?_append_left inside).trans h

theorem parent_append (inside : k < l.length) {p : Nat} : (l ++ l' : Family).Parent k p ↔ l.Parent k p := by
  rw [Parent, Parent, List.getElem?_append_left inside]

theorem parent_concat {source : Option Nat} {p : Nat} :
    (l ++ [source] : Family).Parent l.length p ↔ source = some p := by
  rw [Parent, List.getElem?_concat_length, Option.some_inj]

theorem below_append (older : l.Older) (inside : k < l.length) :
    (l ++ l' : Family).Below k a ↔ l.Below k a := by
  constructor
  · intro h
    induction h using Relation.ReflTransGen.head_induction_on with
    | refl => exact .refl
    | head step _ ih =>
      have step := (parent_append inside).1 step
      exact .head step (ih (Nat.lt_trans (older _ _ step) inside))
  · intro h
    exact Relation.ReflTransGen.mono (fun _ _ step => Parent.append step l') k a h

/-- A new member comes from the one that it is made of, and from what that comes from. -/
theorem below_concat (older : l.Older) {source : Option Nat} (inside : ∀ p, source = some p → p < l.length) :
    (l ++ [source] : Family).Below l.length a ↔ a = l.length ∨ ∃ p, source = some p ∧ l.Below p a := by
  constructor
  · intro h
    rcases Relation.ReflTransGen.cases_head h with same | ⟨p, step, rest⟩
    · exact .inl same.symm
    · have hp := parent_concat.1 step
      exact .inr ⟨p, hp, (below_append older (inside p hp)).1 rest⟩
  · rintro (rfl | ⟨p, hp, rest⟩)
    · exact .refl
    · exact .head (parent_concat.2 hp) ((below_append older (inside p hp)).2 rest)

theorem Older.concat (older : l.Older) {source : Option Nat} (inside : ∀ p, source = some p → p < l.length) :
    Family.Older (l ++ [source]) := by
  intro k p step
  rcases Nat.lt_or_ge k l.length with hk | hk
  · exact older k p ((parent_append hk).1 step)
  · have last : k < (l ++ [source]).length := (List.getElem?_eq_some_iff.1 step).1
    have : k = l.length := by
      simp only [List.length_append, List.length_cons, List.length_nil] at last
      omega
    subst this
    exact inside p (parent_concat.1 step)

end Family

/-! ## Scopes over time -/

/-- Scopes and tokens that come from one another. -/
structure Forest where
  now : Nat
  signals : Signals
  /-- The scopes so far, in the order in which they were made. -/
  scopes : List Scope
  /-- The tokens so far, by the numbers that they were given. -/
  tokens : Family
  /-- The scopes so far, with those that they inherit from: a clone from its original, a
  child or a scope with a timeout from what it was made of. -/
  lineage : Family

namespace Forest

/-- There are no scopes yet. -/
def empty : Forest := ⟨0, .empty, [], [], []⟩

/-- Whether a scope has ended, and why. -/
def ended? (f : Forest) (x : Scope) : Option ScopeEnd := x.ended? f.signals f.now

/-- A scope is made, maybe with tokens of its own, and inherits from its source. -/
def add (f : Forest) (made : Scope × Signals) (tokens : Family) (source : Option Nat) : Forest :=
  { f with
    signals := made.2
    scopes := f.scopes ++ [made.1]
    tokens := f.tokens ++ tokens
    lineage := f.lineage ++ [source] }

/-- What comes of doing something with a scope, if there is one of that number. -/
def withScope (f : Forest) (i : Nat) (act : Scope → Forest) : Forest := f.scopes[i]?.elim f act

/-- What comes of an event. -/
def apply (f : Forest) : Event → Forest
  | .new => f.add (Scope.root f.signals) [none] none
  | .wrapFresh =>
    let (token, signals) := f.signals.root
    f.add (.ofToken token, signals) [none] none
  | .wrap i => f.withScope i fun x => f.add (.ofToken x.token, f.signals) [] none
  | .wrapBelow i => f.withScope i fun x =>
    let (token, signals) := f.signals.child x.token
    f.add (.ofToken token, signals) [some x.token.id] none
  | .clone i => f.withScope i fun x => f.add (x, f.signals) [] (some i)
  | .child i => f.withScope i fun x => f.add (x.child f.signals) [some x.token.id] (some i)
  | .timeout i d => f.withScope i fun x =>
    f.add (x.withTimeout d f.now f.signals) [some x.token.id] (some i)
  | .cancel i => f.withScope i fun x => { f with signals := f.signals.raise x.token }
  | .pass d => { f with now := f.now + d }

/-- What comes of a run: events one after the other, from no scope at all on. -/
def play (events : List Event) : Forest := events.foldl apply empty

theorem play_concat (events : List Event) (e : Event) : play (events ++ [e]) = (play events).apply e := by
  simp only [play, List.foldl_append, List.foldl_cons, List.foldl_nil]

end Forest

namespace Forest

/-- How a scope comes up in `f`, with what signals, tokens and source. -/
inductive Made (f : Forest) : Scope → Signals → Family → Option Nat → Prop
  | rooted {x : Scope} : x.token = ⟨f.signals.issued, []⟩ → Made f x f.signals.root.2 [none] none
  | shared {i : Nat} {y x : Scope} : f.scopes[i]? = some y → x.token = y.token → Made f x f.signals [] none
  | cloned {i : Nat} {y : Scope} : f.scopes[i]? = some y → Made f y f.signals [] (some i)
  | derived {i : Nat} {y x : Scope} {source : Option Nat} : f.scopes[i]? = some y →
      x.token = (f.signals.child y.token).1 →
      (∀ k, source = some k → k = i ∧ Inherits y x) →
      Made f x (f.signals.child y.token).2 [some y.token.id] source

/-- What comes of an event, case by case. -/
inductive Moved (f : Forest) : Event → Forest → Prop
  /-- There is no scope of that number. -/
  | nothing {e} : (∀ i, e = .cancel i → f.scopes[i]? = none) → Moved f e f
  | made {e x signals tokens source} : (∀ i, e ≠ .cancel i) → Made f x signals tokens source →
      Moved f e (f.add (x, signals) tokens source)
  | cancelled {i : Nat} {x : Scope} : f.scopes[i]? = some x →
      Moved f (.cancel i) { f with signals := f.signals.raise x.token }
  | passed (d : Nat) : Moved f (.pass d) { f with now := f.now + d }

theorem Moved.of_withScope {f : Forest} {e : Event} {i : Nat} {act : Scope → Forest} (other : ∀ i, e ≠ .cancel i)
    (h : ∀ x, f.scopes[i]? = some x → Moved f e (act x)) : Moved f e (f.withScope i act) := by
  unfold withScope
  cases hx : f.scopes[i]? with
  | none => exact .nothing fun j he => absurd he (other j)
  | some x => exact h x hx

/-- **Every event is one of the cases.** -/
theorem Moved.of_apply (f : Forest) (e : Event) : Moved f e (f.apply e) := by
  cases e with
  | new => exact .made nofun (.rooted rfl)
  | wrapFresh => exact .made nofun (.rooted rfl)
  | wrap i => exact .of_withScope nofun fun x hx => .made nofun (.shared hx rfl)
  | wrapBelow i => exact .of_withScope nofun fun x hx => .made nofun (.derived hx rfl nofun)
  | clone i => exact .of_withScope nofun fun x hx => .made nofun (.cloned hx)
  | child i =>
    refine .of_withScope nofun fun x hx => .made nofun (.derived hx rfl fun k hk => ?_)
    cases hk
    exact ⟨rfl, .child x f.signals⟩
  | timeout i d =>
    refine .of_withScope nofun fun x hx => .made nofun (.derived hx rfl fun k hk => ?_)
    cases hk
    exact ⟨rfl, .withTimeout x d f.now f.signals⟩
  | pass d => exact .passed d
  | cancel i =>
    simp only [apply, withScope]
    cases hx : f.scopes[i]? with
    | none =>
      refine .nothing fun j hj => ?_
      cases hj
      exact hx
    | some x => exact .cancelled hx

end Forest

end CallGuard.Scope
