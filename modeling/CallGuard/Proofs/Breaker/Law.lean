/-
The law of a breaker in use: whatever calls are made through it, in whatever
order they begin and end, and whatever its hooks do, it is always as its
history tells.
-/
import CallGuard.Proofs.Breaker.Trace

namespace CallGuard

namespace Circuit

open Breaker (Touch Told Turns)

/-- What happens at a circuit. -/
inductive Event where
  /-- A call begins, if it is admitted. -/
  | begin
  /-- A call that has begun ends, if there is one. -/
  | finish (outcome : Outcome Nat)
  /-- A call that has begun is abandoned, if there is one. -/
  | drop
  /-- A call is made from beginning to end. -/
  | perform (call : Call)
  | pass (d : Nat)

/-- A circuit among its callers. -/
structure World where
  circuit : Circuit
  /-- How many calls have begun and not ended. -/
  inFlight : Nat
  /-- How the breaker was used so far. -/
  touches : List Touch

namespace World

/-- A breaker that nobody has used yet. -/
def initial (b : Breaker) : World := ⟨⟨b, 0, [], []⟩, 0, []⟩

/-- What comes of an event. Nothing comes of one that is impossible. -/
def apply (hooks : Hooks) (depth : Nat) (w : World) : Event → World
  | .begin =>
    let (admitted, circuit) := w.circuit.ask (runHooks hooks depth)
    ⟨circuit, if admitted then w.inFlight + 1 else w.inFlight,
      w.touches ++ askTouches (hookTouches hooks depth) w.circuit⟩
  | .finish outcome =>
    if w.inFlight = 0 then w
    else
      ⟨w.circuit.conclude (runHooks hooks depth) outcome, w.inFlight - 1,
        w.touches ++
          concludeTouches (runHooks hooks depth) (hookTouches hooks depth) outcome w.circuit⟩
  | .drop => { w with inFlight := w.inFlight - 1 }
  | .perform call =>
    { w with
      circuit := (w.circuit.perform (runHooks hooks depth) call).2
      touches := w.touches ++
        performTouches (runHooks hooks depth) (hookTouches hooks depth) call w.circuit }
  | .pass d => { w with circuit := { w.circuit with now := w.circuit.now + d } }

/-- What comes of a run: events one after the other, from a breaker not used yet. -/
def play (hooks : Hooks) (depth : Nat) (b : Breaker) (events : List Event) : World :=
  events.foldl (apply hooks depth) (initial b)

theorem play_concat (hooks : Hooks) (depth : Nat) (b : Breaker) (events : List Event) (e : Event) :
    play hooks depth b (events ++ [e]) = (play hooks depth b events).apply hooks depth e := by
  simp only [play, List.foldl_append, List.foldl_cons, List.foldl_nil]

theorem apply_runs {c : Circuit} {hooks : Hooks} {depth : Nat} {w : World}
    (h : Runs hooks.hears c w.touches w.circuit) (e : Event) :
    Runs hooks.hears c (w.apply hooks depth e).touches (w.apply hooks depth e).circuit := by
  have hooked := hooks_hooked hooks depth
  cases e with
  | begin => exact h.trans (ask_runs hooked w.circuit)
  | finish outcome =>
    simp only [apply]
    split
    · exact h
    · exact h.trans (conclude_runs hooked outcome w.circuit)
  | drop => exact h
  | perform call => exact h.trans (perform_runs hooked call w.circuit)
  | pass d =>
    have passed := h.trans (.idle w.circuit (w.circuit.now + d) w.circuit.journal (Nat.le_add_right _ _))
    rw [List.append_nil] at passed
    exact passed

theorem play_runs (hooks : Hooks) (depth : Nat) (b : Breaker) (events : List Event) :
    Runs hooks.hears (initial b).circuit (play hooks depth b events).touches
      (play hooks depth b events).circuit := by
  induction events using List.reverseRecOn with
  | nil => exact .rest _
  | append_singleton events e ih =>
    rw [play_concat]
    exact apply_runs ih e

theorem play_course {R : Course} (hR : R.Composes) (hooks : Hooks) (depth : Nat) (b : Breaker)
    (events : List Event) :
    R (initial b).circuit (play hooks depth b events).touches (play hooks depth b events).circuit :=
  (play_runs hooks depth b events).course hR

/-- Every run uses the breaker as told. -/
theorem play_led (hooks : Hooks) (depth : Nat) (b : Breaker) (events : List Event) :
    Led (initial b).circuit (play hooks depth b events).touches (play hooks depth b events).circuit :=
  (play_runs hooks depth b events).led

end World

/-- The law of a breaker `b` that was not used before, and of a world in which it is
in use. -/
structure Lawful (b : Breaker) (w : World) : Prop where
  /-- After any uses, in any order and at any times, the breaker is as they tell. -/
  told : ∀ touches, Told (b.replay touches).1 (b.replay touches).2
  turns : ∀ touches, Turns (b.replay touches).1 (b.replay touches).2
  settings : ∀ touches, (b.replay touches).1.threshold = b.threshold ∧
    (b.replay touches).1.resetTimeout = b.resetTimeout
  /-- Calls and hooks use it, and do nothing else to it. -/
  uses : w.circuit.breaker = (b.replay w.touches).1
  /-- A hook sees the breaker as it is after the uses so far. -/
  seen : ∀ notice seen, .heard notice seen ∈ w.circuit.events →
    ∃ earlier, earlier <+: w.touches ∧ seen = (b.replay earlier).1.view

theorem threshold_new_le (threshold : UInt64) (resetTimeout : Nat) :
    (Breaker.new threshold.toNat resetTimeout).threshold ≤ Word.last := by
  have := threshold.toNat_lt
  simp only [Breaker.new]
  split
  · decide +kernel
  · unfold Word.last Word.count
    omega

/-- **The history of a breaker tells its state.** It holds of every state in which
a call, a nested call or a hook can find the breaker. -/
theorem history_lawful (threshold : UInt64) (resetTimeout : Nat) (hooks : Hooks) (depth : Nat)
    (events : List Event) :
    Lawful (Breaker.new threshold.toNat resetTimeout)
      (World.play hooks depth (Breaker.new threshold.toNat resetTimeout) events) := by
  have fits := threshold_new_le threshold resetTimeout
  have told (touches) := Breaker.told_replay (Told.new threshold.toNat resetTimeout) fits touches
  have settings := Breaker.replay_settings (Breaker.new threshold.toNat resetTimeout)
  have led := World.play_led hooks depth (Breaker.new threshold.toNat resetTimeout) events
  refine ⟨told, fun touches => ?_, settings, led.breaker, fun notice seen hm => ?_⟩
  · refine (told touches).turns ?_
    rw [(settings touches).1]
    exact fits
  · obtain ⟨news, he, hn⟩ := led.heard
    refine hn notice seen ?_
    rw [he, World.initial, List.append_nil] at hm
    exact hm

/-- Two failures in a row open a breaker with threshold two, unless a success comes
between them. -/
example : ((Breaker.new 2 9).replay [.fail 3, .succeed, .fail 5]).1.state = .closed ∧
    ((Breaker.new 2 9).replay [.fail 3, .succeed, .fail 5, .fail 6]).1.state = .opened := by
  decide

end Circuit

end CallGuard
