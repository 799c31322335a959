/-
When a scope has ended and why. Nothing takes the end back: time goes on, and cancelled
tokens stay cancelled whatever is done within a scope. What inherits from a scope ends with
it (`Inherits`).
-/
import CallGuard.Behaviour

namespace CallGuard

variable {S ι σ α : Type}

/-- A scope has ended, for a reason. -/
inductive Scope.EndedBy (scope : Scope) (s : Signals) (now : Nat) : ScopeEnd → Prop
  | cancelled : s.isRaised scope.token = true → EndedBy scope s now .cancelled
  /-- Its deadline has passed, and it was not cancelled. -/
  | deadline {d} : s.isRaised scope.token = false → scope.deadline = some d → d ≤ now →
      EndedBy scope s now .deadlineExceeded

theorem Scope.ended?_eq_some_iff {scope : Scope} {s : Signals} {now : Nat} {reason : ScopeEnd} :
    scope.ended? s now = some reason ↔ scope.EndedBy s now reason := by
  unfold Scope.ended?
  constructor
  · intro h
    split at h
    · rename_i hr
      cases h
      exact .cancelled hr
    · rename_i hr
      split at h
      · rename_i d hd
        split at h
        · rename_i reached
          cases h
          exact .deadline (Bool.eq_false_iff.2 hr) hd reached
        · cases h
      · cases h
  · intro h
    cases h with
    | cancelled hr => rw [if_pos hr]
    | deadline hr hd reached => simp only [hr, Bool.false_eq_true, if_false, hd, if_pos reached]

theorem Signals.isRaised_iff {s : Signals} {t : Token} :
    s.isRaised t = true ↔ ∃ a ∈ t.id :: t.ancestors, a ∈ s.raised := by
  simp only [isRaised, List.any_eq_true, List.contains_iff_mem]

namespace Scope

/-- How grave the end of a scope is. -/
def severity : Option ScopeEnd → Nat
  | none => 0
  | some .deadlineExceeded => 1
  | some .cancelled => 2

variable {x y : Scope} {s s' : Signals} {now now' : Nat}

theorem ended?_congr (h : s'.isRaised x.token = s.isRaised x.token) (now : Nat) :
    x.ended? s' now = x.ended? s now := by
  unfold ended?
  rw [h]

/-- If the cancellation of one scope brings that of another with it, and so does the
deadline, then so does the end. -/
theorem severity_ended?_le (cancelled : s.isRaised x.token = true → s'.isRaised y.token = true)
    (deadline : ∀ d, x.deadline = some d → d ≤ now → ∃ d', y.deadline = some d' ∧ d' ≤ now') :
    severity (x.ended? s now) ≤ severity (y.ended? s' now') := by
  cases hx : x.ended? s now with
  | none => exact Nat.zero_le _
  | some reason =>
    cases ended?_eq_some_iff.1 hx with
    | cancelled raised =>
      exact Nat.le_of_eq (congrArg severity (ended?_eq_some_iff.2 (.cancelled (cancelled raised))).symm)
    | deadline _ hd reached =>
      obtain ⟨d', hd', reached'⟩ := deadline _ hd reached
      cases raised : s'.isRaised y.token with
      | true =>
        rw [ended?_eq_some_iff.2 (.cancelled raised)]
        decide
      | false =>
        exact Nat.le_of_eq (congrArg severity (ended?_eq_some_iff.2 (.deadline raised hd' reached')).symm)

theorem isSome_iff_severity_pos (reason : Option ScopeEnd) : reason.isSome = true ↔ 0 < severity reason := by
  rcases reason with _ | _ | _ <;> decide

theorem isSome_ended?_mono (later : now ≤ now')
    (keeps : s.isRaised x.token = true → s'.isRaised x.token = true)
    (h : (x.ended? s now).isSome = true) : (x.ended? s' now').isSome = true := by
  rw [isSome_iff_severity_pos] at h ⊢
  exact Nat.lt_of_lt_of_le h
    (severity_ended?_le keeps fun d hd reached => ⟨d, hd, Nat.le_trans reached later⟩)

theorem lt_of_ended?_eq_none {d : Nat} (h : x.ended? s now = none) (hd : x.deadline = some d) : now < d := by
  refine Nat.lt_of_not_le fun reached => ?_
  cases raised : s.isRaised x.token with
  | true => rw [ended?_eq_some_iff.2 (.cancelled raised)] at h; cases h
  | false => rw [ended?_eq_some_iff.2 (.deadline raised hd reached)] at h; cases h

/-! ## What a scope hands on -/

/-- What a scope hands on to another: its tokens and its deadline. -/
structure Inherits (x y : Scope) : Prop where
  tokens : ∀ a ∈ x.token.id :: x.token.ancestors, a ∈ y.token.id :: y.token.ancestors
  deadline : ∀ d, x.deadline = some d → ∃ d', y.deadline = some d' ∧ d' ≤ d

theorem Inherits.refl (x : Scope) : Inherits x x := ⟨fun _ h => h, fun d hd => ⟨d, hd, Nat.le_refl d⟩⟩

/-- A derived scope has all tokens of the one it came from, and no later deadline. -/
theorem Inherits.child (x : Scope) (s : Signals) : Inherits x (x.child s).1 where
  tokens _ h := List.mem_cons_of_mem _ h
  deadline d hd := ⟨d, hd, Nat.le_refl d⟩

theorem Inherits.withTimeout (x : Scope) (timeout now : Nat) (s : Signals) :
    Inherits x (x.withTimeout timeout now s).1 where
  tokens _ h := List.mem_cons_of_mem _ h
  deadline d hd := by
    simp only [Scope.withTimeout, hd]
    cases Instant.after? now timeout with
    | none => exact ⟨d, rfl, Nat.le_refl d⟩
    | some due => exact ⟨min d due, rfl, Nat.min_le_left d due⟩

theorem Inherits.isRaised {x y : Scope} (h : Inherits x y) {s : Signals} (raised : s.isRaised x.token = true) :
    s.isRaised y.token = true := by
  obtain ⟨a, ha, hr⟩ := Signals.isRaised_iff.1 raised
  exact Signals.isRaised_iff.2 ⟨a, h.tokens a ha, hr⟩

/-- What inherits from a scope that has ended has ended too. -/
theorem Inherits.severity_le {x y : Scope} (h : Inherits x y) (s : Signals) (now : Nat) :
    severity (x.ended? s now) ≤ severity (y.ended? s now) := by
  refine severity_ended?_le h.isRaised fun d hd reached => ?_
  obtain ⟨d', hd', le⟩ := h.deadline d hd
  exact ⟨d', hd', Nat.le_trans le reached⟩

end Scope

/-! ## Cancelled tokens stay cancelled -/

/-- An operation that takes no cancellation back. -/
structure Operation.KeepsCancelled (op : Operation S ι σ α) : Prop where
  start : ∀ request n scope now w t, w.signals.isRaised t = true →
    (op.start request n scope now w).1.signals.isRaised t = true
  resume : ∀ now s w w' p t, op.resume now s w = some (w', p) → w.signals.isRaised t = true →
    w'.signals.isRaised t = true
  drop : ∀ s w t, w.signals.isRaised t = true → (op.drop s w).signals.isRaised t = true

theorem Behaviour.run_isRaised (now : Nat) (scope : Scope) (b : Behaviour α) (s : Signals) (t : Token)
    (h : s.isRaised t = true) : (b.run now scope s).1.isRaised t = true := by
  induction b generalizing s with
  | finish outcome => exact h
  | cancelScope rest ih => exact ih _ ((Signals.isRaised_raise s scope.token t).2 (.inl h))
  | sleep d rest ih =>
    simp only [run]
    split
    · exact ih s h
    · exact h
  | sleepInScope d rest ih =>
    simp only [run]
    split
    · exact h
    · split
      · exact ih s h
      · exact h
  | awaitScopeEnd =>
    simp only [run]
    split <;> exact h
  | hang => exact h

theorem Activity.resume_isRaised {now : Nat} {scope : Scope} {a : Activity α} {s s' : Signals} {p}
    (hr : a.resume now scope s = some (s', p)) (t : Token) (h : s.isRaised t = true) :
    s'.isRaised t = true := by
  cases a with
  | asleep due rest =>
    simp only [resume] at hr
    split at hr
    · have := rest.run_isRaised now scope s t h
      rw [Option.some.inj hr] at this
      exact this
    · cases hr
  | asleepInScope due rest =>
    simp only [resume] at hr
    split at hr
    · cases hr
      exact h
    · split at hr
      · have := rest.run_isRaised now scope s t h
        rw [Option.some.inj hr] at this
        exact this
      · cases hr
  | awaitingScopeEnd =>
    obtain ⟨reason, -, hr⟩ := Option.map_eq_some_iff.1 hr
    cases hr
    exact h
  | hanging => cases hr

theorem Operation.scripted.signals_close (noteEnd : Outcome α → S → S) (scope : Scope) (w : Setting S)
    (p : Progress (Activity α) (Outcome α)) :
    (close noteEnd scope w p).1.signals = w.signals := by
  cases p <;> rfl

theorem Operation.scripted_keepsCancelled (behaviour : ι → Nat → Behaviour α)
    (noteStart : ι → Nat → S → S) (noteEnd : Outcome α → S → S) :
    (scripted behaviour noteStart noteEnd).KeepsCancelled where
  start request n scope now w t h := by
    simp only [scripted, scripted.signals_close]
    exact (behaviour request n).run_isRaised now scope w.signals t h
  resume now s w w' p t hr h := by
    obtain ⟨⟨signals, q⟩, hq, hr⟩ := Option.map_eq_some_iff.1 hr
    have := scripted.signals_close noteEnd s.1 { w with signals := signals } q
    simp only at hr
    rw [hr] at this
    rw [this]
    exact Activity.resume_isRaised hq t h
  drop s w t h := h

end CallGuard
