/-
Turns: whoever has the tracker gives it back by its deadline, which is no later than the
time for a fetch allows (`Leased`). So those who wait get their turns one after the other,
each after the time that the refetches ahead of it may take (`Pacing.turns`).
-/
import CallGuard.Proofs.Sequence.Prompt

namespace CallGuard

namespace Sequence

/-- When as many refetches are over, one after the other from an instant on, if each takes
all the time that a fetch may take. -/
def Pacing.turns (p : Pacing) : Nat → Nat → Option Nat
  | 0, t => some t
  | n + 1, t => (Instant.after? t p.timeout).bind fun due => p.turns n (Instant.tick due)

namespace Pacing

variable {p : Pacing}

theorem turns_succ {n t last : Nat} (h : p.turns (n + 1) t = some last) :
    ∃ due, Instant.after? t p.timeout = some due ∧ p.turns n (Instant.tick due) = some last :=
  Option.bind_eq_some_iff.1 h

theorem turns_mono {n n' t t' last' : Nat} (fewer : n ≤ n') (le : t ≤ t') (h : p.turns n' t' = some last') :
    ∃ last, p.turns n t = some last ∧ last ≤ last' := by
  induction n' generalizing n t t' with
  | zero =>
    obtain rfl := Nat.le_zero.1 fewer
    cases h
    exact ⟨t, rfl, le⟩
  | succ n' ih =>
    obtain ⟨due', after', rest⟩ := turns_succ h
    obtain ⟨due, after, due_le⟩ := Instant.after?_mono le after'
    cases n with
    | zero =>
      exact ih (Nat.zero_le n') (Nat.le_trans le (Instant.le_tick_of_after? after')) rest
    | succ n =>
      obtain ⟨last, turns, last_le⟩ :=
        ih (Nat.le_of_succ_le_succ fewer) (Instant.tick_le_tick due_le) rest
      exact ⟨last, Option.bind_eq_some_iff.2 ⟨due, after, turns⟩, last_le⟩

theorem le_turns {n t last : Nat} (h : p.turns n t = some last) : t ≤ last := by
  obtain ⟨first, he, le⟩ := turns_mono (Nat.zero_le n) (Nat.le_refl t) h
  cases he
  exact le

end Pacing

variable {S σ : Type} {source : Operation S Unit σ Record}

/-! ## Whoever has the tracker -/

/-- A caller has the tracker after an event but a grant only if it had it before. -/
theorem Moved.busy {w w' : World S σ} {e : Event S} (m : Moved w e w') (other : e ≠ .grant) {b' : Refetch σ}
    (busy : w'.tracker.busy = some b') :
    ∃ b, w.tracker.busy = some b ∧ b'.ticket = b.ticket ∧ b'.scope = b.scope := by
  cases m with
  | nothing _ | asked r | passed d | around setting => exact ⟨b', busy, rfl, rfl⟩
  | granted _ => exact absurd rfl other
  | concluded hc => cases hc <;> cases busy
  | advanced ha =>
    cases ha with
    | @ran b b'' started busy' hs =>
      cases busy
      exact ⟨b, busy', hs.ticket, hs.scope⟩
    | strayed _ _ => exact ⟨b', busy, rfl, rfl⟩
  | left k =>
    obtain ⟨after, strays, he, h⟩ := w.tracker.abandon_cases k
    simp only [he] at busy
    rcases h with same | ⟨free, -⟩
    · exact ⟨b', same ▸ busy, rfl, rfl⟩
    · rw [free] at busy
      cases busy

theorem Moved.line {w w' : World S σ} {e : Event S} (m : Moved w e w') (inner : e = .fetch ∨ e = .conclude) :
    w'.now = w.now ∧ w'.tracker.waiting = w.tracker.waiting := by
  cases m with
  | nothing _ => exact ⟨rfl, rfl⟩
  | advanced ha => exact ⟨rfl, ha.kept.2.2.1⟩
  | concluded hc => cases hc <;> exact ⟨rfl, rfl⟩
  | asked _ | granted _ | left _ | passed _ | around _ => rcases inner with he | he <;> cases he

namespace World

variable {w : World S σ} {e : Event S} {b : Refetch σ} {instant : Nat}

theorem now_put (w : World S σ) (next : Option (Tracker σ × Setting S)) : (w.put next).now = w.now := by
  cases next <;> rfl

theorem grant_of_busy (source : Operation S Unit σ Record) (busy : w.tracker.busy = some b) :
    w.apply source .grant = w := by
  simp only [apply, Tracker.grant?, busy]
  rfl

theorem MayPass.busy (may : w.MayPass source instant) (waits : w.tracker.waiting ≠ []) :
    ∃ b, w.tracker.busy = some b := by
  cases busy : w.tracker.busy with
  | some b => exact ⟨b, rfl⟩
  | none =>
    cases hw : w.tracker.waiting with
    | nil => exact absurd hw waits
    | cons p waiting =>
      have granted := may.granted
      rw [Tracker.grant?, busy, hw] at granted
      cases granted

theorem MayPass.going (may : w.MayPass source instant) (busy : w.tracker.busy = some b) :
    b.scope.ended? w.setting.signals w.now = none := by
  cases hs : b.scope.ended? w.setting.signals w.now with
  | none => rfl
  | some reason =>
    have fetched := may.fetched
    have concluded := may.concluded
    cases hf : b.fetch with
    | due => simp [Tracker.fetchStep?, busy, Tracker.fetch?, hf] at fetched
    | running s => simp [Tracker.conclude?, busy, hf, hs] at concluded
    | ended outcome => simp [Tracker.conclude?, busy, hf, hs] at concluded

theorem MayPass.le_tick (may : w.MayPass source instant) (busy : w.tracker.busy = some b) {due : Nat}
    (hd : b.scope.deadline = some due) : instant ≤ Instant.tick due := by
  refine may.due due ?_ (Scope.lt_of_ended?_eq_none (may.going busy) hd)
  simp [Tracker.dues, busy, hd]

end World

/-- Whoever is let in has a deadline, no later than the time for a fetch allows. -/
theorem Tracker.deadline_of_grant? {t t' : Tracker σ} {now : Nat} {w w' : Setting S} {b : Refetch σ} {due : Nat}
    (h : t.grant? now w = some (t', w')) (busy : t'.busy = some b)
    (reached : Instant.after? now t.pacing.timeout = some due) :
    ∃ d, b.scope.deadline = some d ∧ d ≤ due := by
  unfold grant? at h
  split at h
  · rename_i ticket request waiting idle first
    cases request with
    | next | current | lastRefetch | overwrite _ =>
      cases h
      cases idle.symm.trans busy
    | refetch scope =>
      simp only [serve, beginRefetch] at h
      split at h
      · cases h
        cases idle.symm.trans busy
      · split at h
        · cases h
          cases busy
        · cases h
          cases busy
          exact earlier_le (.inr reached)
  · cases h

/-- Whoever has the tracker got it at some instant, and has a deadline no later than the
time for a fetch allows. -/
def Leased (w : World S σ) : Prop :=
  ∀ b, w.tracker.busy = some b → ∃ since ≤ w.now,
    ∀ due, Instant.after? since w.tracker.pacing.timeout = some due →
      ∃ d, b.scope.deadline = some d ∧ d ≤ due

theorem Leased.apply {w : World S σ} (h : Leased w) (source : Operation S Unit σ Record) (e : Event S) :
    Leased (w.apply source e) := by
  have m := Moved.of_apply source w e
  by_cases grants : e = .grant
  · subst grants
    cases busy : w.tracker.busy with
    | some b => exact (World.grant_of_busy source busy).symm ▸ h
    | none =>
      intro b' busy'
      cases served : w.tracker.grant? w.now w.setting with
      | none =>
        simp only [World.apply, served, World.put] at busy'
        cases busy.symm.trans busy'
      | some next =>
        refine ⟨w.now, m.replies.1, fun due reached => ?_⟩
        rw [m.pacing] at reached
        simp only [World.apply, served, World.put] at busy'
        exact Tracker.deadline_of_grant? served busy' reached
  · intro b' busy'
    obtain ⟨b, busy, -, scope⟩ := m.busy grants busy'
    obtain ⟨since, le, deadline⟩ := h b busy
    rw [m.pacing, scope]
    exact ⟨since, Nat.le_trans le m.replies.1, deadline⟩

theorem Leased.play (source : Operation S Unit σ Record) (pacing : Pacing) (setting : Setting S)
    (events : List (Event S)) : Leased (World.play source pacing setting events) := by
  induction events using List.reverseRecOn with
  | nil => exact nofun
  | append_singleton events e ih =>
    rw [World.play_concat]
    exact ih.apply source e

/-- Whoever has the tracker has a deadline by an instant. -/
structure FreeBy (limit : Nat) (w : World S σ) : Prop where
  now : w.now ≤ limit
  holder : ∀ b, w.tracker.busy = some b → ∃ d, b.scope.deadline = some d ∧ Instant.tick d ≤ limit

namespace FreeBy

variable {w w' : World S σ} {e : Event S} {limit : Nat}

theorem mono {limit' : Nat} (h : FreeBy limit w) (le : limit ≤ limit') : FreeBy limit' w where
  now := Nat.le_trans h.now le
  holder b busy := (h.holder b busy).imp fun _ hd => ⟨hd.1, Nat.le_trans hd.2 le⟩

theorem of_leased (h : Leased w) {due : Nat} (reached : Instant.after? w.now w.tracker.pacing.timeout = some due) :
    FreeBy (Instant.tick due) w := by
  refine ⟨Instant.le_tick_of_after? reached, fun b busy => ?_⟩
  obtain ⟨since, le, deadline⟩ := h b busy
  obtain ⟨due', reached', due_le⟩ := Instant.after?_mono le reached
  obtain ⟨d, hd, d_le⟩ := deadline due' reached'
  exact ⟨d, hd, Instant.tick_le_tick (Nat.le_trans d_le due_le)⟩

theorem moved (h : FreeBy limit w) (m : Moved w e w') (other : e ≠ .grant) (now : w'.now ≤ limit) :
    FreeBy limit w' := by
  refine ⟨now, fun b' busy' => ?_⟩
  obtain ⟨b, busy, -, scope⟩ := m.busy other busy'
  exact scope ▸ h.holder b busy

/-- While somebody waits, time does not pass beyond that instant. -/
theorem pass (h : FreeBy limit w) (waits : w.tracker.waiting ≠ []) {instant : Nat}
    (may : w.MayPass source instant) : instant ≤ limit := by
  obtain ⟨b, busy⟩ := may.busy waits
  obtain ⟨due, hd, tick_le⟩ := h.holder b busy
  exact Nat.le_trans (may.le_tick busy hd) tick_le

/-- From one to the next it takes no longer than a fetch may take. -/
theorem grant (h : FreeBy limit w) (idle : w.tracker.busy = none) {due : Nat}
    (reached : Instant.after? limit w.tracker.pacing.timeout = some due) :
    FreeBy (Instant.tick due) (w.apply source .grant) := by
  obtain ⟨due', reached', le⟩ := Instant.after?_mono h.now reached
  have leased : Leased w := fun b busy => by cases idle.symm.trans busy
  have now : (w.apply source .grant).now = w.now := World.now_put _ _
  rw [← now, ← (Moved.of_apply source w .grant).pacing] at reached'
  exact (of_leased (leased.apply source .grant) reached').mono (Instant.tick_le_tick le)

end FreeBy

end Sequence

end CallGuard
