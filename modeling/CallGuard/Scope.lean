/-
Scopes: a cancellation token and an optional deadline. A derived scope is
cancelled with the scope it came from, and its deadline is never later.
-/
import CallGuard.Failure

namespace CallGuard

/-- A cancellation token knows itself and the tokens it was derived from. -/
structure Token where
  id : Nat
  ancestors : List Nat
  deriving DecidableEq, Repr

/-- Which tokens exist and which of them were cancelled. -/
structure Signals where
  issued : Nat
  raised : List Nat

namespace Signals

/-- No token was made yet. -/
def empty : Signals := ⟨0, []⟩

/-- A token derived from none. -/
def root (s : Signals) : Token × Signals := (⟨s.issued, []⟩, { s with issued := s.issued + 1 })

/-- A token derived from `t`. -/
def child (s : Signals) (t : Token) : Token × Signals :=
  (⟨s.issued, t.id :: t.ancestors⟩, { s with issued := s.issued + 1 })

/-- Cancels `t`, and with it every token derived from it, now or later. -/
def raise (s : Signals) (t : Token) : Signals :=
  if s.raised.contains t.id then s else { s with raised := t.id :: s.raised }

/-- A token is cancelled when it or a token it was derived from was. -/
def isRaised (s : Signals) (t : Token) : Bool :=
  (t.id :: t.ancestors).any (s.raised.contains ·)

theorem isRaised_raise (s : Signals) (t u : Token) :
    (s.raise t).isRaised u = true ↔ s.isRaised u = true ∨ t.id ∈ u.id :: u.ancestors := by
  unfold raise
  split
  · rename_i h
    simp only [isRaised, List.any_eq_true]
    exact ⟨.inl, fun hu => hu.elim id fun hm => ⟨t.id, hm, h⟩⟩
  · simp only [isRaised, List.any_eq_true, List.contains_cons, Bool.or_eq_true, beq_iff_eq]
    constructor
    · rintro ⟨x, hx, rfl | hr⟩
      · exact .inr hx
      · exact .inl ⟨x, hx, hr⟩
    · rintro (⟨x, hx, hr⟩ | hm)
      · exact ⟨x, hx, .inr hr⟩
      · exact ⟨t.id, hm, .inl rfl⟩

end Signals

/-- How long work may go on: until its token is cancelled, or its deadline has passed. -/
structure Scope where
  token : Token
  deadline : Option Nat
  deriving DecidableEq, Repr

namespace Scope

/-- A scope that depends on nothing and has no deadline. -/
def root (s : Signals) : Scope × Signals :=
  let (token, s) := s.root
  (⟨token, none⟩, s)

/-- Shares the token, not the deadline. -/
def ofToken (token : Token) : Scope := ⟨token, none⟩

/-- Cancelled together with the scope, with the same deadline. -/
def child (scope : Scope) (s : Signals) : Scope × Signals :=
  let (token, s) := s.child scope.token
  (⟨token, scope.deadline⟩, s)

/-- Cancelled together with the scope, and due at most `timeout` from now. A
timeout beyond the end of the clock adds no deadline. -/
def withTimeout (scope : Scope) (timeout : Nat) (now : Nat) (s : Signals) : Scope × Signals :=
  let (token, s) := s.child scope.token
  (⟨token, earlier scope.deadline (Instant.after? now timeout)⟩, s)

/-- Whether a scope has ended, and why. Cancellation outranks the deadline. -/
def ended? (scope : Scope) (s : Signals) (now : Nat) : Option ScopeEnd :=
  if s.isRaised scope.token then some .cancelled
  else match scope.deadline with
    | some deadline => if deadline ≤ now then some .deadlineExceeded else none
    | none => none

end Scope

end CallGuard
