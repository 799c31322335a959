/-
The history of a breaker: every time it was asked or told how a call ended, one
after the other, with the state before and after. The counts of a breaker are
what its history says, whoever used it and in whatever order.
-/
import CallGuard.Breaker.Basic
import Mathlib.Data.List.Induction

namespace CallGuard

namespace Breaker

/-- One use of a breaker. It happens at once, and nothing in between. -/
inductive Touch where
  | ask (now : Nat)
  | succeed
  | fail (now : Nat)
  deriving DecidableEq, Repr

/-- When a use happened; successes keep no time. -/
def Touch.time? : Touch → Option Nat
  | .ask now | .fail now => some now
  | .succeed => none

/-- The breaker after a use. -/
def touch (b : Breaker) : Touch → Breaker
  | .ask now => (b.ask now).2.1
  | .succeed => b.succeed.1
  | .fail now => (b.fail now).1

/-- The change of state that a use reports. -/
def turn (b : Breaker) : Touch → Option CircuitChange
  | .ask now => (b.ask now).2.2
  | .succeed => b.succeed.2
  | .fail now => (b.fail now).2

/-- A use of a breaker, as it was seen. -/
structure Record where
  touch : Touch
  before : CircuitState
  after : CircuitState
  deriving DecidableEq, Repr

namespace Record

/-- Whether a success was reported. -/
def isSuccess (r : Record) : Bool := r.touch == .succeed

/-- The instant of a failure. -/
def failedAt? (r : Record) : Option Nat :=
  match r.touch with
  | .fail now => some now
  | .ask _ | .succeed => none

/-- Whether a failure was reported. -/
def isFailure (r : Record) : Bool := r.failedAt?.isSome

/-- The breaker did not change its state. -/
def stayed (r : Record) : Bool := r.before == r.after

/-- The breaker stayed in its state, and did not take in a success while closed. -/
def goesOn (r : Record) : Bool := r.stayed && !(r.isSuccess && r.before == .closed)

end Record

/-- What happened to a breaker, the latest first. -/
abbrev History := List Record

namespace History

/-- The part of a history since the breaker entered its state. -/
def inState (h : History) : History := h.takeWhile (·.stayed)

/-- The part of a history since the breaker entered its state or took in a success
while closed, whichever was later. -/
def uninterrupted (h : History) : History := h.takeWhile (·.goesOn)

/-- How many failures were reported. -/
def failures (h : History) : Nat := h.countP (·.isFailure)

/-- How many successes were reported. -/
def successes (h : History) : Nat := h.countP (·.isSuccess)

/-- The instant of the latest failure. -/
def lastFailure (h : History) : Option Nat := h.findSome? (·.failedAt?)

end History

/-- A breaker and its history after some uses. -/
def replay (b : Breaker) (touches : List Touch) : Breaker × History :=
  touches.foldl
    (fun (b, h) t => (b.touch t, ⟨t, b.state, (b.touch t).state⟩ :: h))
    (b, [])

theorem replay_concat (b : Breaker) (touches : List Touch) (t : Touch) :
    b.replay (touches ++ [t]) =
      ((b.replay touches).1.touch t,
        ⟨t, (b.replay touches).1.state, ((b.replay touches).1.touch t).state⟩ ::
          (b.replay touches).2) := by
  simp only [replay, List.foldl_append, List.foldl_cons, List.foldl_nil]

theorem replay_fst (b : Breaker) (touches : List Touch) :
    (b.replay touches).1 = touches.foldl touch b := by
  induction touches using List.reverseRecOn with
  | nil => rfl
  | append_singleton touches t ih =>
    rw [replay_concat, List.foldl_append, ih]
    rfl

theorem replay_append (b : Breaker) (touches touches' : List Touch) :
    (b.replay (touches ++ touches')).1 = ((b.replay touches).1.replay touches').1 := by
  simp only [replay_fst, List.foldl_append]

/-! ## What one use does -/

theorem touch_settings (b : Breaker) (t : Touch) :
    (b.touch t).threshold = b.threshold ∧ (b.touch t).resetTimeout = b.resetTimeout := by
  cases t with
  | ask now =>
    simp only [touch, ask, moveTo]
    split
    · exact ⟨rfl, rfl⟩
    · exact ⟨rfl, rfl⟩
    · split
      · split <;> exact ⟨rfl, rfl⟩
      · exact ⟨rfl, rfl⟩
  | succeed =>
    simp only [touch, succeed, moveTo]
    repeat' split
    all_goals exact ⟨rfl, rfl⟩
  | fail now =>
    simp only [touch, fail, moveTo]
    repeat' split
    all_goals exact ⟨rfl, rfl⟩

section Closed

variable {b : Breaker}

theorem touch_ask_closed (h : b.state = .closed) (now : Nat) : b.touch (.ask now) = b := by
  simp only [touch, ask, h]

theorem touch_succeed_closed (h : b.state = .closed) : b.touch .succeed = { b with failures := 0 } := by
  simp only [touch, succeed, h]

theorem touch_fail_closed (h : b.state = .closed) (now : Nat) : b.touch (.fail now) =
    if b.threshold ≤ Word.clamp (b.failures + 1) then
      { b with state := .opened, failures := 0, successes := 0, lastFailure := some now }
    else { b with failures := Word.clamp (b.failures + 1), lastFailure := some now } := by
  simp only [touch, fail, h]
  split
  · simp only [moveTo, reduceCtorEq, if_false]
  · rfl

end Closed

section HalfOpen

variable {b : Breaker}

theorem touch_ask_halfOpen (h : b.state = .halfOpen) (now : Nat) : b.touch (.ask now) = b := by
  simp only [touch, ask, h]

theorem touch_succeed_halfOpen (h : b.state = .halfOpen) : b.touch .succeed =
    if probesToClose ≤ b.successes + 1 then { b with state := .closed, failures := 0, successes := 0 }
    else { b with successes := b.successes + 1 } := by
  simp only [touch, succeed, h]
  split
  · simp only [moveTo, reduceCtorEq, if_false]
  · rfl

theorem touch_fail_halfOpen (h : b.state = .halfOpen) (now : Nat) : b.touch (.fail now) =
    { b with state := .opened, failures := 0, successes := 0, lastFailure := some now } := by
  simp only [touch, fail, h, moveTo, reduceCtorEq, if_false]

end HalfOpen

section Opened

variable {b : Breaker}

theorem touch_ask_opened (h : b.state = .opened) (now : Nat) : b.touch (.ask now) =
    if b.cooled now then { b with state := .halfOpen, failures := 0, successes := 0 } else b := by
  simp only [touch, ask, h]
  split
  · simp only [moveTo, h, reduceCtorEq, if_false]
  · rfl

theorem touch_succeed_opened (h : b.state = .opened) : b.touch .succeed = b := by
  simp only [touch, succeed, h]

theorem touch_fail_opened (h : b.state = .opened) (now : Nat) : b.touch (.fail now) =
    { b with failures := Word.clamp (b.failures + 1), lastFailure := some now } := by
  simp only [touch, fail, h]

end Opened

end Breaker

end CallGuard
