/-
Prompt runs of a tracker: time passes only when nothing is left to be done, never beyond
the millisecond at which a wait is over, and nothing takes cancellations back. In such a
run scopes that have ended stay so.
-/
import CallGuard.Proofs.Scope.End
import CallGuard.Proofs.Sequence.Moves

namespace CallGuard.Sequence

variable {S σ : Type} {source : Operation S Unit σ Record}

namespace World

/-- The clock may move on to an instant. -/
structure MayPass (source : Operation S Unit σ Record) (w : World S σ) (instant : Nat) : Prop where
  granted : w.tracker.grant? w.now w.setting = none
  concluded : w.tracker.conclude? source w.now w.setting = none
  fetched : w.tracker.fetchStep? source w.now w.setting = none
  due : ∀ due ∈ w.tracker.dues source, w.now < due → instant ≤ Instant.tick due

/-- Whether an event may happen next. -/
def Allows (source : Operation S Unit σ Record) (w : World S σ) : Event S → Prop
  | .pass d => w.MayPass source (w.now + d)
  | .around setting => ∀ t, w.setting.signals.isRaised t = true → setting.signals.isRaised t = true
  | .request _ | .grant | .fetch | .conclude | .abandon _ => True

/-- Each of these events may happen when it does. -/
def Prompt (source : Operation S Unit σ Record) : World S σ → List (Event S) → Prop
  | _, [] => True
  | w, e :: events => w.Allows source e ∧ Prompt source (w.apply source e) events

theorem prompt_append {w : World S σ} {events events' : List (Event S)} :
    w.Prompt source (events ++ events') ↔
      w.Prompt source events ∧ (events.foldl (apply source) w).Prompt source events' := by
  induction events generalizing w with
  | nil => exact ⟨fun h => ⟨trivial, h⟩, fun h => h.2⟩
  | cons e events ih =>
    rw [List.cons_append, Prompt, Prompt, ih, and_assoc]
    rfl

/-- What each event keeps that may happen, holds after all of them. -/
theorem Prompt.keep {P : World S σ → Prop} (step : ∀ w e, w.Allows source e → P w → P (w.apply source e))
    {events : List (Event S)} {w : World S σ} (prompt : w.Prompt source events) (start : P w) :
    P (events.foldl (apply source) w) := by
  induction events generalizing w with
  | nil => exact start
  | cons e events ih => exact ih prompt.2 (step w e prompt.1 start)

end World

/-! ## Cancelled tokens stay cancelled -/

namespace Tracker

variable {t t' : Tracker σ} {w w' : Setting S} {now : Nat} {token : Token}

theorem isRaised_grant? (h : t.grant? now w = some (t', w')) (raised : w.signals.isRaised token = true) :
    w'.signals.isRaised token = true := by
  unfold grant? at h
  split at h
  · rename_i ticket request waiting idle first
    cases request with
    | next | current | lastRefetch | overwrite _ =>
      cases h
      exact raised
    | refetch scope =>
      simp only [serve, beginRefetch] at h
      split at h
      · cases h
        exact raised
      · split at h
        · cases h
          exact (Signals.isRaised_raise _ _ _).2 (.inl raised)
        · cases h
          exact raised
  · cases h

theorem isRaised_conclude? (keeps : source.KeepsCancelled) (h : t.conclude? source now w = some (t', w'))
    (raised : w.signals.isRaised token = true) : w'.signals.isRaised token = true := by
  unfold conclude? at h
  obtain ⟨b, -, h⟩ := Option.bind_eq_some_iff.1 h
  split at h
  · cases h
  · cases h
    exact (Signals.isRaised_raise _ _ _).2 (.inl (keeps.drop _ w token raised))
  · cases h
    exact (Signals.isRaised_raise _ _ _).2 (.inl raised)
  · cases h
  · rename_i outcome _ _
    cases outcome <;> cases h <;> exact raised

theorem isRaised_fetch? (keeps : source.KeepsCancelled) {started : Nat} {b : Refetch σ} {r}
    (h : fetch? source now started b w = some r) (raised : w.signals.isRaised token = true) :
    r.2.2.signals.isRaised token = true := by
  have proceeded (p : Setting S × Progress σ (Outcome Record)) : (proceed b p).2 = p.1 := by
    obtain ⟨w', p⟩ := p
    cases p <;> rfl
  unfold fetch? at h
  split at h
  · cases h
    rw [proceeded]
    exact keeps.start _ _ _ _ w token raised
  · obtain ⟨p, hp, h⟩ := Option.map_eq_some_iff.1 h
    cases h
    rw [proceeded]
    exact keeps.resume _ _ w p.1 p.2 token hp raised
  · cases h

theorem isRaised_fetchAny? (keeps : source.KeepsCancelled) {started : Nat} {l : List (Refetch σ)} {r}
    (h : fetchAny? source now started w l = some r) (raised : w.signals.isRaised token = true) :
    r.2.2.signals.isRaised token = true := by
  induction l generalizing r with
  | nil => cases h
  | cons b l ih =>
    unfold fetchAny? at h
    split at h
    · rename_i hf
      cases h
      exact isRaised_fetch? keeps hf raised
    · obtain ⟨r', hr, h⟩ := Option.map_eq_some_iff.1 h
      have rest := ih hr
      cases h
      exact rest

theorem isRaised_fetchStep? (keeps : source.KeepsCancelled) (h : t.fetchStep? source now w = some (t', w'))
    (raised : w.signals.isRaised token = true) : w'.signals.isRaised token = true := by
  unfold fetchStep? at h
  split at h
  · rename_i hb
    obtain ⟨b, -, hf⟩ := Option.bind_eq_some_iff.1 hb
    cases h
    exact isRaised_fetch? keeps hf raised
  · obtain ⟨r, hr, h⟩ := Option.map_eq_some_iff.1 h
    cases h
    exact isRaised_fetchAny? keeps hr raised

end Tracker

namespace World

variable {w : World S σ} {e : Event S}

theorem isRaised_put {t : Token} {next : Option (Tracker σ × Setting S)}
    (raised : w.setting.signals.isRaised t = true)
    (kept : ∀ t' setting, next = some (t', setting) → setting.signals.isRaised t = true) :
    (w.put next).setting.signals.isRaised t = true := by
  cases next with
  | none => exact raised
  | some next => exact kept next.1 next.2 rfl

theorem isRaised_apply (keeps : source.KeepsCancelled) (allows : w.Allows source e) {t : Token}
    (raised : w.setting.signals.isRaised t = true) :
    (w.apply source e).setting.signals.isRaised t = true := by
  cases e with
  | request _ | abandon _ | pass _ => exact raised
  | around setting => exact allows t raised
  | grant => exact isRaised_put raised fun _ _ h => Tracker.isRaised_grant? h raised
  | conclude => exact isRaised_put raised fun _ _ h => Tracker.isRaised_conclude? keeps h raised
  | fetch => exact isRaised_put raised fun _ _ h => Tracker.isRaised_fetchStep? keeps h raised

/-- A scope has ended, as far as things stand. -/
def HasEnded (w : World S σ) (scope : Scope) : Prop := (scope.ended? w.setting.signals w.now).isSome = true

theorem HasEnded.apply {scope : Scope} (h : w.HasEnded scope) (keeps : source.KeepsCancelled)
    (allows : w.Allows source e) : (w.apply source e).HasEnded scope :=
  Scope.isSome_ended?_mono (Moved.of_apply source w e).replies.1 (isRaised_apply keeps allows) h

end World

end CallGuard.Sequence
