/-
What the hook of state changes is told, in the order in which it is notified, is what
happened to the breaker: it is told of each change once, when the breaker has just made it
and nothing else was done with it, whatever hooks do then.
-/
import CallGuard.Proofs.Breaker.Law

namespace CallGuard

/-- The changes of state that there are. -/
def CircuitChange.all : List CircuitChange :=
  [⟨.closed, .opened⟩, ⟨.opened, .halfOpen⟩, ⟨.halfOpen, .closed⟩, ⟨.halfOpen, .opened⟩]

theorem CircuitChange.ne_of_mem_all {change : CircuitChange} (h : change ∈ all) :
    change.previous ≠ change.next := by
  have distinct : ∀ change ∈ all, change.previous ≠ change.next := by decide
  exact distinct change h

/-- Changes, the latest first, that lead from one state to another. -/
inductive CircuitState.Path (first : CircuitState) : List CircuitChange → CircuitState → Prop
  | start : Path first [] first
  | step {changes change} : Path first changes change.previous →
      Path first (change :: changes) change.next

namespace Breaker

/-- The changes of state in a history, the latest first. -/
def History.changes (h : History) : List CircuitChange :=
  (h.filter (!·.stayed)).map fun r => ⟨r.before, r.after⟩

theorem History.changes_cons_of_eq (t : Touch) {s s' : CircuitState} (same : s' = s) (h : History) :
    changes (⟨t, s, s'⟩ :: h) = h.changes := by
  have stayed : (⟨t, s, s'⟩ : Record).stayed = true := beq_iff_eq.2 same.symm
  simp only [changes, List.filter_cons, stayed, Bool.not_true, Bool.false_eq_true, if_false]

theorem History.changes_cons_of_ne (t : Touch) {s s' : CircuitState} (turned : s ≠ s') (h : History) :
    changes (⟨t, s, s'⟩ :: h) = ⟨s, s'⟩ :: h.changes := by
  have stayed : (⟨t, s, s'⟩ : Record).stayed = false := beq_eq_false_iff_ne.2 turned
  simp only [changes, List.filter_cons, stayed, Bool.not_false, if_true, List.map_cons]

variable {b : Breaker}

/-- What a use may report: that the breaker is in the same state, or that it entered another
one and counts from zero. -/
inductive Reports (b : Breaker) (t : Touch) : Option CircuitChange → Prop
  | stayed : (b.touch t).state = b.state → Reports b t none
  | turned {change} : change ∈ CircuitChange.all → change.previous = b.state →
      (b.touch t).view = ⟨change.next, 0, 0⟩ → Reports b t (some change)

theorem Reports.ask (b : Breaker) (now : Nat) : Reports b (.ask now) (b.turn (.ask now)) := by
  unfold turn
  cases hs : b.state with
  | closed =>
    simp only [Breaker.ask, hs]
    exact .stayed (by rw [touch_ask_closed hs])
  | halfOpen =>
    simp only [Breaker.ask, hs]
    exact .stayed (by rw [touch_ask_halfOpen hs])
  | opened =>
    have touched := touch_ask_opened hs now
    simp only [Breaker.ask, hs]
    by_cases cooled : b.cooled now = true
    · rw [if_pos cooled] at touched ⊢
      simp only [moveTo, hs, reduceCtorEq, if_false]
      exact .turned (by decide) hs.symm (by rw [touched]; rfl)
    · rw [if_neg cooled] at touched ⊢
      exact .stayed (by rw [touched])

theorem Reports.succeed (b : Breaker) : Reports b .succeed (b.turn .succeed) := by
  unfold turn
  cases hs : b.state with
  | closed =>
    simp only [Breaker.succeed, hs]
    exact .stayed (by rw [touch_succeed_closed hs])
  | opened =>
    simp only [Breaker.succeed, hs]
    exact .stayed (by rw [touch_succeed_opened hs])
  | halfOpen =>
    have touched := touch_succeed_halfOpen hs
    simp only [Breaker.succeed, hs]
    by_cases closes : probesToClose ≤ b.successes + 1
    · rw [if_pos closes] at touched ⊢
      simp only [moveTo, reduceCtorEq, if_false]
      exact .turned (by decide) hs.symm (by rw [touched]; rfl)
    · rw [if_neg closes] at touched ⊢
      exact .stayed (by rw [touched])

theorem Reports.fail (b : Breaker) (now : Nat) : Reports b (.fail now) (b.turn (.fail now)) := by
  unfold turn
  cases hs : b.state with
  | closed =>
    have touched := touch_fail_closed hs now
    simp only [Breaker.fail, hs]
    by_cases opens : b.threshold ≤ Word.clamp (b.failures + 1)
    · rw [if_pos opens] at touched ⊢
      simp only [moveTo, reduceCtorEq, if_false]
      exact .turned (by decide) hs.symm (by rw [touched]; rfl)
    · rw [if_neg opens] at touched ⊢
      exact .stayed (by rw [touched])
  | opened =>
    simp only [Breaker.fail, hs]
    exact .stayed (by rw [touch_fail_opened hs])
  | halfOpen =>
    simp only [Breaker.fail, hs]
    simp only [moveTo, reduceCtorEq, if_false]
    exact .turned (by decide) hs.symm (by rw [touch_fail_halfOpen hs]; rfl)

theorem reports_turn (b : Breaker) (t : Touch) : Reports b t (b.turn t) := by
  cases t with
  | ask now => exact .ask b now
  | succeed => exact .succeed b
  | fail now => exact .fail b now

end Breaker

/-- The change that the hook of state changes is told. -/
def HookEvent.change? : HookEvent → Option CircuitChange
  | heard (.changed change) _ => some change
  | heard (.failed _) _ | called _ => none

namespace Circuit

open Breaker (Touch)
open CircuitState (Path)

/-- What the hook of state changes was told, the latest first. -/
def story (events : List HookEvent) : List CircuitChange := events.filterMap (·.change?)

/-- A breaker `b` was used like that, and hooks were told of it. -/
structure TrueStory (b : Breaker) (touches : List Touch) (c : Circuit) : Prop where
  uses : c.breaker = (b.replay touches).1
  /-- The hook was notified once for each change of state, in their order. -/
  once : story c.events = (b.replay touches).2.changes
  /-- Each change starts in the state that the one before led to, the first in the closed
  state, and the last led to the present state. -/
  path : Path .closed (story c.events) c.breaker.state
  real : ∀ change ∈ story c.events, change ∈ CircuitChange.all
  /-- When the hook starts, the breaker is in the state that it is told of, and counts from
  zero. -/
  seen : ∀ change seen, .heard (.changed change) seen ∈ c.events → seen = ⟨change.next, 0, 0⟩
  /-- Whenever a hook starts, also that of errors, the story so far leads to the state that
  the breaker is in. -/
  upToDate : ∀ notice seen earlier, .heard notice seen :: earlier <:+ c.events →
    Path .closed (story (.heard notice seen :: earlier)) seen.state

namespace TrueStory

variable {b : Breaker} {touches : List Touch} {c c' : Circuit} {t : Touch}

theorem initial (hb : b.state = .closed) : TrueStory b [] ⟨b, 0, [], []⟩ where
  uses := rfl
  once := rfl
  path := hb ▸ .start
  real := nofun
  seen := nofun
  upToDate _ _ _ h := by cases List.suffix_nil.1 h

theorem of_same (h : TrueStory b touches c) (breaker : c'.breaker = c.breaker) (events : c'.events = c.events) :
    TrueStory b touches c' where
  uses := breaker.trans h.uses
  once := events ▸ h.once
  path := events ▸ breaker ▸ h.path
  real := events ▸ h.real
  seen := events ▸ h.seen
  upToDate := events ▸ h.upToDate

theorem called (h : TrueStory b touches c) (reply : CallReply) :
    TrueStory b touches { c with events := .called reply :: c.events } where
  uses := h.uses
  once := h.once
  path := h.path
  real := h.real
  seen change seen hm := by
    rcases List.mem_cons.1 hm with he | hm
    · cases he
    · exact h.seen change seen hm
  upToDate notice seen earlier hs := by
    rcases List.suffix_cons_iff.1 hs with he | hs
    · cases he
    · exact h.upToDate notice seen earlier hs

theorem failed (h : TrueStory b touches c) (f : Failure) : TrueStory b touches (c.hear (.failed f)) where
  uses := h.uses
  once := h.once
  path := h.path
  real := h.real
  seen change seen hm := by
    rcases List.mem_cons.1 hm with he | hm
    · cases he
    · exact h.seen change seen hm
  upToDate notice seen earlier hs := by
    rcases List.suffix_cons_iff.1 hs with he | hs
    · cases he
      exact h.path
    · exact h.upToDate notice seen earlier hs

theorem stayed (h : TrueStory b touches c) (same : (c.breaker.touch t).state = c.breaker.state) :
    TrueStory b (touches ++ [t]) { c with breaker := c.breaker.touch t } where
  uses := by rw [Breaker.replay_concat, ← h.uses]
  once := by
    rw [Breaker.replay_concat, ← h.uses, Breaker.History.changes_cons_of_eq t same]
    exact h.once
  path := same ▸ h.path
  real := h.real
  seen := h.seen
  upToDate := h.upToDate

theorem turned (h : TrueStory b touches c) {change : CircuitChange} (real : change ∈ CircuitChange.all)
    (previous : change.previous = c.breaker.state) (fresh : (c.breaker.touch t).view = ⟨change.next, 0, 0⟩)
    (breaker : c'.breaker = c.breaker.touch t) (events : c'.events = c.events) :
    TrueStory b (touches ++ [t]) (c'.hear (.changed change)) := by
  have state : (c.breaker.touch t).state = change.next := congrArg CircuitView.state fresh
  have path : Path .closed (change :: story c.events) change.next := .step (previous ▸ h.path)
  have told : (c'.hear (.changed change)).events = .heard (.changed change) ⟨change.next, 0, 0⟩ :: c.events := by
    rw [hear, breaker, fresh, events]
  refine ⟨?_, ?_, ?_, fun change' hm => ?_, fun change' seen hm => ?_, fun notice seen earlier hs => ?_⟩
  · rw [Breaker.replay_concat, ← h.uses]
    exact breaker
  · have ne : c.breaker.state ≠ (c.breaker.touch t).state :=
      previous ▸ state ▸ CircuitChange.ne_of_mem_all real
    rw [told, Breaker.replay_concat, ← h.uses, Breaker.History.changes_cons_of_ne t ne, ← h.once, state,
      ← previous]
    rfl
  · have after : (c'.hear (.changed change)).breaker.state = change.next := by
      rw [hear, breaker, state]
    rw [told, after]
    exact path
  · rw [told] at hm
    rcases List.mem_cons.1 hm with rfl | hm
    · exact real
    · exact h.real change' hm
  · rw [told] at hm
    rcases List.mem_cons.1 hm with he | hm
    · cases he
      rfl
    · exact h.seen change' seen hm
  · rw [told] at hs
    rcases List.suffix_cons_iff.1 hs with he | hs
    · cases he
      exact path
    · exact h.upToDate notice seen earlier hs

end TrueStory

/-- Where changes of state have a hook, everything that is done with a circuit is told. -/
theorem Runs.trueStory {hears : Notice → Bool} (loud : ∀ change, hears (.changed change) = true) {b : Breaker}
    {c c' : Circuit} {touches : List Touch} (run : Runs hears c touches c') :
    ∀ {before : List Touch}, TrueStory b before c → TrueStory b (before ++ touches) c' := by
  induction run with
  | idle c now journal _ =>
    intro before h
    rw [List.append_nil]
    exact h.of_same rfl rfl
  | trans _ _ first second =>
    intro before h
    rw [← List.append_assoc]
    exact second (first h)
  | use c t listen echo _ _ _ heard =>
    intro before h
    have reports := c.breaker.reports_turn t
    cases hr : c.breaker.turn t with
    | none =>
      rw [hr] at reports
      cases reports with
      | stayed same => exact h.stayed same
    | some change =>
      rw [hr] at reports
      cases reports with
      | turned real previous fresh =>
        -- The hook is notified first, and what it does then is told in turn.
        let d := Circuit.log { c with breaker := c.breaker.touch t } (.circuitChanged change)
        have turned : TrueStory b (before ++ [t]) (d.hear (.changed change)) :=
          h.turned real previous fresh rfl rfl
        have hooked := heard (.changed change) d (loud change) turned
        rw [List.append_assoc] at hooked
        exact hooked
  | failed c f _ =>
    intro before h
    rw [List.append_nil]
    exact h.failed f
  | called c reply =>
    intro before h
    rw [List.append_nil]
    exact h.called reply

/-- **Hooks are told the true story.** It holds of everything that code of one thread does
with a circuit, at every moment, and so of all calls and hooks of a world. -/
theorem runs_told (threshold resetTimeout : Nat) :
    (∀ hears, (∀ change, hears (.changed change) = true) → ∀ touches c,
      Runs hears (World.initial (Breaker.new threshold resetTimeout)).circuit touches c →
        TrueStory (Breaker.new threshold resetTimeout) touches c) ∧
    ∀ (hooks : Hooks) (depth : Nat) (events : List Event), hooks.onChange = true →
      TrueStory (Breaker.new threshold resetTimeout)
        (World.play hooks depth (Breaker.new threshold resetTimeout) events).touches
        (World.play hooks depth (Breaker.new threshold resetTimeout) events).circuit := by
  have told (hears) (loud : ∀ change, hears (.changed change) = true) (touches c)
      (run : Runs hears (World.initial (Breaker.new threshold resetTimeout)).circuit touches c) :
      TrueStory (Breaker.new threshold resetTimeout) touches c := by
    have initial : TrueStory (Breaker.new threshold resetTimeout) [] _ := .initial rfl
    exact run.trueStory loud initial
  refine ⟨told, fun hooks depth events heard => ?_⟩
  exact told hooks.hears (fun _ => heard) _ _ (World.play_runs hooks depth _ events)

/-- Hooks that probe a breaker when it becomes half open, and fail when it has closed. -/
def Hooks.meddling : Hooks where
  onChange := true
  onError := true
  reaction
    | .changed ⟨.opened, .halfOpen⟩ => some (.mk [] 0 (.value 1))
    | .changed ⟨.halfOpen, .closed⟩ => some (.mk [] 0 (.failure .circuitOpen))
    | _ => none

/-- One call takes an open breaker through all states: it is a probe, the hook's call is
another one, and the call of the hook that hears of the success fails. -/
theorem meddling_told :
    let w := World.play .meddling 3 (.new 1 5)
      [.perform (.mk [] 0 (.failure .circuitOpen)), .pass 6, .perform (.mk [] 0 (.value 2))]
    TrueStory (.new 1 5) w.touches w.circuit ∧ story w.circuit.events =
      [⟨.closed, .opened⟩, ⟨.halfOpen, .closed⟩, ⟨.opened, .halfOpen⟩, ⟨.closed, .opened⟩] :=
  ⟨(runs_told 1 5).2 .meddling 3 _ rfl, by decide +kernel⟩

end Circuit

end CallGuard
