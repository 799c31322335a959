/-
How long an open breaker stays closed to calls. It rejects each call that comes no later
than the reset timeout after the latest failure, whoever reported that, and the call it
admits then makes it half open. So no operation begins in the window after the breaker
opened, and each failure reported meanwhile prolongs the window.
-/
import CallGuard.Breaker.Guarded
import CallGuard.Proofs.Breaker.Law

namespace CallGuard

namespace Breaker

/-- The instants of uses. -/
def times (touches : List Touch) : List Nat := touches.filterMap (·.time?)

/-- The clock does not go back between uses. -/
def Ordered (touches : List Touch) : Prop := (times touches).Pairwise (· ≤ ·)

/-- The instant at which a call is admitted, if a use admits one. -/
def letIn (b : Breaker) : Touch → List Nat
  | .ask now => if (b.ask now).1 then [now] else []
  | .succeed | .fail _ => []

/-- The instants at which calls are admitted, among uses of a breaker. -/
def admissions (b : Breaker) : List Touch → List Nat
  | [] => []
  | t :: touches => b.letIn t ++ (b.touch t).admissions touches

theorem times_append (touches touches' : List Touch) :
    times (touches ++ touches') = times touches ++ times touches' := by
  simp only [times, List.filterMap_append]

theorem times_cons (t : Touch) (touches : List Touch) :
    times (t :: touches) = t.time?.toList ++ times touches := by
  unfold times
  rw [List.filterMap_cons]
  cases t.time? <;> rfl

theorem admissions_append (b : Breaker) (touches touches' : List Touch) :
    b.admissions (touches ++ touches') =
      b.admissions touches ++ (b.replay touches).1.admissions touches' := by
  induction touches generalizing b with
  | nil => rfl
  | cons t touches ih =>
    have replayed : (b.replay (t :: touches)).1 = ((b.touch t).replay touches).1 := by
      rw [replay_fst, replay_fst, List.foldl_cons]
    rw [List.cons_append, admissions, admissions, ih, replayed, List.append_assoc]

theorem mem_times_of_letIn {b : Breaker} {t : Touch} {now : Nat} (h : now ∈ b.letIn t) :
    now ∈ t.time?.toList := by
  cases t with
  | ask at_ =>
    simp only [letIn] at h
    split at h
    · exact h
    · exact absurd h List.not_mem_nil
  | succeed | fail at_ => exact absurd h List.not_mem_nil

theorem mem_times_of_admissions {b : Breaker} {touches : List Touch} {now : Nat}
    (h : now ∈ b.admissions touches) : now ∈ times touches := by
  induction touches generalizing b with
  | nil => exact absurd h List.not_mem_nil
  | cons t touches ih =>
    rw [admissions, List.mem_append] at h
    rw [times_cons, List.mem_append]
    exact h.imp mem_times_of_letIn ih

/-! ## To be asked -/

theorem ask_opened {b : Breaker} (h : b.state = .opened) (now : Nat) : b.ask now =
    if b.cooled now then (true, b.moveTo .halfOpen) else (false, b, none) := by
  simp only [ask, h]

theorem ask_of_rejected {b : Breaker} {now : Nat} (h : (b.ask now).1 = false) :
    b.ask now = (false, b, none) := by
  unfold ask at h ⊢
  split at h
  · cases h
  · cases h
  · split at h
    · cases h
    · rename_i hc
      exact if_neg hc

/-- What comes of asking a breaker with a history, at an instant. -/
structure Asked (b : Breaker) (h : History) (now : Nat) : Prop where
  /-- An open breaker has a latest failure, and rejects calls as long as the time since
  then is at most the reset timeout. -/
  opened : b.state = .opened → ∃ failedAt, h.lastFailure = some failedAt ∧ failedAt ≤ now ∧
    ((b.ask now).1 = false ↔ now - failedAt ≤ b.resetTimeout)
  /-- The call that it admits makes it half open. -/
  admitted : b.state = .opened → (b.ask now).1 = true →
    (b.ask now).2.1.state = .halfOpen ∧ (b.ask now).2.2 = some ⟨.opened, .halfOpen⟩
  /-- In the other states all calls are admitted. -/
  others : b.state ≠ .opened → (b.ask now).1 = true
  rejected : (b.ask now).1 = false → b.ask now = (false, b, none)

theorem Told.asked_of_le {b : Breaker} {h : History} (ht : Told b h) {now : Nat}
    (past : ∀ failedAt, h.lastFailure = some failedAt → failedAt ≤ now) : Asked b h now := by
  by_cases hs : b.state = .opened
  · obtain ⟨failedAt, hl⟩ := Option.isSome_iff_exists.1 (ht.opened hs).2.2
    have cooled : b.cooled now = true ↔ b.resetTimeout < now - failedAt := by
      simp only [Breaker.cooled, hl, decide_eq_true_eq]
    have last : h.lastFailure = some failedAt := by rw [← ht.lastFailure, hl]
    have asked := ask_opened hs now
    by_cases hc : b.cooled now = true
    · rw [if_pos hc] at asked
      have late : ¬ now - failedAt ≤ b.resetTimeout := Nat.not_le.2 (cooled.1 hc)
      rw [moveTo, if_neg (by rw [hs]; decide)] at asked
      exact
        { opened := fun _ => ⟨failedAt, last, past failedAt last, by
            rw [asked]
            exact iff_of_false Bool.noConfusion late⟩
          admitted := fun _ _ => by
            rw [asked, hs]
            exact ⟨rfl, rfl⟩
          others := fun hn => absurd hs hn
          rejected := ask_of_rejected }
    · rw [if_neg hc] at asked
      have soon : now - failedAt ≤ b.resetTimeout := Nat.not_lt.1 fun hl => hc (cooled.2 hl)
      exact
        { opened := fun _ => ⟨failedAt, last, past failedAt last, by
            rw [asked]
            exact iff_of_true rfl soon⟩
          admitted := fun _ ha => by
            rw [asked] at ha
            cases ha
          others := fun hn => absurd hs hn
          rejected := ask_of_rejected }
  · have asked : b.ask now = (true, b, none) := by
      unfold ask
      split
      · rfl
      · rfl
      · rename_i ho
        exact absurd ho hs
    exact
      { opened := fun ho => absurd ho hs
        admitted := fun ho => absurd ho hs
        others := fun _ => by rw [asked]
        rejected := ask_of_rejected }

theorem mem_times_of_lastFailure {b : Breaker} {touches : List Touch} {failedAt : Nat}
    (h : (b.replay touches).2.lastFailure = some failedAt) : failedAt ∈ times touches := by
  induction touches using List.reverseRecOn with
  | nil => cases h
  | append_singleton touches t ih =>
    rw [replay_concat, History.lastFailure_cons] at h
    rw [times_append, List.mem_append]
    cases t with
    | ask now | succeed => exact .inl (ih h)
    | fail now =>
      cases h
      exact .inr (List.mem_singleton_self _)

/-! ## The window -/

theorem eq_fail_of_opened {b : Breaker} {t : Touch} (hs : b.state ≠ .opened)
    (h : (b.touch t).state = .opened) : ∃ s, t = .fail s := by
  cases t with
  | fail s => exact ⟨s, rfl⟩
  | ask now =>
    cases hb : b.state with
    | opened => exact absurd hb hs
    | closed =>
      rw [touch_ask_closed hb] at h
      exact absurd h hs
    | halfOpen =>
      rw [touch_ask_halfOpen hb] at h
      exact absurd h hs
  | succeed =>
    cases hb : b.state with
    | opened => exact absurd hb hs
    | closed =>
      rw [touch_succeed_closed hb] at h
      exact absurd h hs
    | halfOpen =>
      rw [touch_succeed_halfOpen hb] at h
      split at h
      · cases h
      · exact absurd h hs

theorem lastFailure_touch_fail (b : Breaker) (s : Nat) : (b.touch (.fail s)).lastFailure = some s := by
  cases hb : b.state with
  | closed =>
    rw [touch_fail_closed hb]
    split <;> rfl
  | halfOpen => rw [touch_fail_halfOpen hb]
  | opened => rw [touch_fail_opened hb]

/-- An open breaker admits nothing until its reset timeout has passed since a failure,
whatever else is reported to it. -/
theorem lt_of_mem_admissions {b : Breaker} {touches : List Touch} {s failedAt : Nat}
    (opened : b.state = .opened) (last : b.lastFailure = some failedAt) (le : s ≤ failedAt)
    (ordered : Ordered touches) (later : ∀ t ∈ times touches, failedAt ≤ t) :
    ∀ t ∈ b.admissions touches, s + b.resetTimeout < t := by
  induction touches generalizing b failedAt with
  | nil =>
    intro t ht
    exact absurd ht List.not_mem_nil
  | cons u touches ih =>
    intro t ht
    rw [admissions, List.mem_append] at ht
    unfold Ordered at ordered
    rw [times_cons] at ordered later
    obtain ⟨-, ordered', first⟩ := List.pairwise_append.1 ordered
    have later' : ∀ t ∈ times touches, failedAt ≤ t :=
      fun t ht => later t (List.mem_append_right _ ht)
    cases u with
    | ask now =>
      simp only [letIn, ask_opened opened now] at ht
      rw [touch_ask_opened opened now] at ht
      by_cases hc : b.cooled now = true
      · -- This call and all that come after it are late enough.
        have late : b.resetTimeout < now - failedAt := by
          simpa only [cooled, last, decide_eq_true_eq] using hc
        simp only [if_pos hc, if_true, List.mem_singleton] at ht
        rcases ht with rfl | ht
        · omega
        · have := first now (List.mem_singleton_self _) t (mem_times_of_admissions ht)
          omega
      · simp only [if_neg hc, Bool.false_eq_true, if_false, List.not_mem_nil, false_or] at ht
        exact ih opened last le ordered' later' t ht
    | succeed =>
      rw [touch_succeed_opened opened] at ht
      rcases ht with ht | ht
      · exact absurd ht List.not_mem_nil
      · exact ih opened last le ordered' later' t ht
    | fail now =>
      -- The breaker stays open, with a later failure.
      have still : (b.touch (.fail now)).state = .opened := by
        rw [touch_fail_opened opened]
        exact opened
      have failed : (b.touch (.fail now)).lastFailure = some now := by
        rw [touch_fail_opened opened]
      have recent : failedAt ≤ now := later now (List.mem_append_left _ (List.mem_singleton_self _))
      have afterwards : ∀ t ∈ times touches, now ≤ t := first now (List.mem_singleton_self _)
      rcases ht with ht | ht
      · exact absurd ht List.not_mem_nil
      · rw [← (b.touch_settings (.fail now)).2]
        exact ih still failed (Nat.le_trans le recent) ordered' afterwards t ht

/-- **The window.** From a failure that opened a breaker or found it open, no call is
admitted until the reset timeout has passed. -/
theorem window_replay (b : Breaker) (touches : List Touch) (s : Nat) (later : List Touch)
    (ordered : Ordered (touches ++ .fail s :: later))
    (opened : (b.replay (touches ++ [.fail s])).1.state = .opened) :
    ∀ t ∈ (b.replay (touches ++ [.fail s])).1.admissions later, s + b.resetTimeout < t := by
  have failed : (b.replay (touches ++ [.fail s])).1.lastFailure = some s := by
    rw [replay_concat]
    exact lastFailure_touch_fail _ s
  unfold Ordered at ordered
  rw [times_append, times_cons] at ordered
  obtain ⟨-, since, -⟩ := List.pairwise_append.1 ordered
  obtain ⟨-, ordered', first⟩ := List.pairwise_append.1 since
  rw [← (b.replay_settings (touches ++ [.fail s])).2]
  exact lt_of_mem_admissions opened failed (Nat.le_refl _) ordered' (first s (List.mem_singleton_self _))

end Breaker

namespace Circuit

open Breaker (Touch Ordered times)

/-! ## The clock of a circuit -/

/-- From one circuit to another the clock went on, and each use happened in between. -/
structure Timed (c : Circuit) (touches : List Touch) (c' : Circuit) : Prop where
  later : c.now ≤ c'.now
  within : ∀ t ∈ times touches, c.now ≤ t ∧ t ≤ c'.now
  ordered : Ordered touches

theorem timed_composes : Course.Composes Timed where
  trans {c c' c'' touches touches'} h h' := by
    refine ⟨Nat.le_trans h.later h'.later, fun t ht => ?_, ?_⟩
    · rw [Breaker.times_append, List.mem_append] at ht
      rcases ht with ht | ht
      · obtain ⟨h1, h2⟩ := h.within t ht
        exact ⟨h1, Nat.le_trans h2 h'.later⟩
      · obtain ⟨h1, h2⟩ := h'.within t ht
        exact ⟨Nat.le_trans h.later h1, h2⟩
    · unfold Ordered
      rw [Breaker.times_append]
      refine List.pairwise_append.2 ⟨h.ordered, h'.ordered, fun t ht t' ht' => ?_⟩
      exact Nat.le_trans (h.within t ht).2 (h'.within t' ht').1
  touch c t ht := by
    have now : ∀ t' ∈ times [t], t' = c.now := by
      intro t' h
      rw [Breaker.times_cons, List.mem_append] at h
      rcases h with h | h
      · exact ht t' (Option.mem_toList.1 h)
      · exact absurd h List.not_mem_nil
    refine ⟨Nat.le_refl _, fun t' h => ?_, ?_⟩
    · rw [now t' h]
      exact ⟨Nat.le_refl _, Nat.le_refl _⟩
    · cases t with
      | ask at_ | fail at_ => exact List.pairwise_singleton _ _
      | succeed => exact .nil
  idle c now journal le := ⟨le, nofun, .nil⟩
  hear c notice := ⟨Nat.le_refl _, nofun, .nil⟩
  called c reply := ⟨Nat.le_refl _, nofun, .nil⟩

/-! ## Which operations begin -/

mutual

/-- The instants at which the operation of a call, and those of the calls in it, begin. -/
def performLaunches (listen : Listener) : Call → Circuit → List Nat
  | .mk inner _ _, c =>
    let (admitted, c) := c.ask listen
    if admitted then c.now :: performAllLaunches listen inner c else []

/-- The instants at which operations begin, for calls made one after the other. -/
def performAllLaunches (listen : Listener) : List Call → Circuit → List Nat
  | [], _ => []
  | call :: calls, c =>
    performLaunches listen call c ++ performAllLaunches listen calls (perform listen call c).2

end

/-- Hooks make no calls of their own. -/
def Hooks.Quiet (hooks : Hooks) : Prop := ∀ notice, hooks.reaction notice = none

/-- A listener that neither uses the breaker nor takes time. -/
structure Silent (hears : Notice → Bool) (listen : Listener) (echo : Echo) : Prop where
  hooked : Hooked hears listen echo
  touches : ∀ notice c, echo notice c = []
  now : ∀ notice c, (listen notice c).now = c.now

theorem Hooks.Quiet.silent {hooks : Hooks} (quiet : hooks.Quiet) (depth : Nat) :
    Silent hooks.hears (runHooks hooks depth) (hookTouches hooks depth) where
  hooked := hooks_hooked hooks depth
  touches notice c := by
    unfold hookTouches
    cases depth with
    | zero => split <;> rfl
    | succ depth =>
      rw [quiet notice]
      split <;> rfl
  now notice c := by
    unfold runHooks
    cases depth with
    | zero => split <;> rfl
    | succ depth =>
      rw [quiet notice]
      split <;> rfl

section Silence

variable {hears : Notice → Bool} {listen : Listener} {echo : Echo}

theorem Silent.announceTouches (h : Silent hears listen echo) (change : Option CircuitChange) (c : Circuit) :
    Circuit.announceTouches echo change c = [] := by
  cases change with
  | none => rfl
  | some change => exact h.touches _ _

theorem Silent.askTouches (h : Silent hears listen echo) (c : Circuit) :
    Circuit.askTouches echo c = [.ask c.now] := by
  simp only [Circuit.askTouches, h.announceTouches]

theorem Silent.ask_now (h : Silent hears listen echo) (c : Circuit) : (c.ask listen).2.now = c.now := by
  simp only [ask, log]
  cases (c.breaker.ask c.now).2.2 with
  | none => rfl
  | some change => exact h.now _ _

theorem Silent.admissions_conclude {α : Type} (h : Silent hears listen echo) (b : Breaker)
    (outcome : Outcome α) (c : Circuit) :
    b.admissions (concludeTouches listen echo outcome c) = [] := by
  cases outcome with
  | value a =>
    simp only [concludeTouches, h.announceTouches]
    rfl
  | failure f =>
    simp only [concludeTouches, h.announceTouches, h.touches]
    rfl
  | panic message => rfl

mutual

/-- Operations begin when calls are admitted, and only then. -/
theorem Silent.performLaunches (h : Silent hears listen echo) : ∀ (call : Call) (c : Circuit),
    Circuit.performLaunches listen call c = c.breaker.admissions (performTouches listen echo call c)
  | .mk inner takes outcome, c => by
    have asked : (c.ask listen).2.breaker = (c.breaker.replay [.ask c.now]).1 := by
      have led := (ask_runs h.hooked c).led
      rw [h.askTouches] at led
      exact led.breaker
    have first : c.breaker.admissions [.ask c.now] = if (c.ask listen).1 then [c.now] else [] := by
      simp only [Breaker.admissions, Breaker.letIn, List.append_nil]
      rfl
    simp only [Circuit.performLaunches, performTouches, h.askTouches]
    rw [Breaker.admissions_append, first, ← asked]
    cases (c.ask listen).1 with
    | false => rfl
    | true =>
      simp only [if_true]
      rw [Breaker.admissions_append, h.admissions_conclude, List.append_nil,
        ← h.performAllLaunches inner, h.ask_now, List.singleton_append]

theorem Silent.performAllLaunches (h : Silent hears listen echo) : ∀ (calls : List Call) (c : Circuit),
    Circuit.performAllLaunches listen calls c =
      c.breaker.admissions (performAllTouches listen echo calls c)
  | [], _ => rfl
  | call :: calls, c => by
    have led := (perform_runs h.hooked call c).led
    simp only [Circuit.performAllLaunches, performAllTouches]
    rw [Breaker.admissions_append, ← led.breaker, h.performLaunches call, h.performAllLaunches calls]

end

end Silence

namespace World

/-- The instants at which operations begin in an event. -/
def launches (hooks : Hooks) (depth : Nat) (w : World) : Event → List Nat
  | .begin =>
    let (admitted, c) := w.circuit.ask (runHooks hooks depth)
    if admitted then [c.now] else []
  | .perform call => performLaunches (runHooks hooks depth) call w.circuit
  | .finish _ | .drop | .pass _ => []

/-- The instants at which operations begin in a run. -/
def launchesIn (hooks : Hooks) (depth : Nat) (b : Breaker) (events : List Event) : List Nat :=
  (events.foldl (fun (w, seen) e => (w.apply hooks depth e, seen ++ w.launches hooks depth e))
    (initial b, [])).2

theorem launchesIn_concat (hooks : Hooks) (depth : Nat) (b : Breaker) (events : List Event) (e : Event) :
    launchesIn hooks depth b (events ++ [e]) =
      launchesIn hooks depth b events ++ (play hooks depth b events).launches hooks depth e := by
  have beside (w : World) (seen : List Nat) :
      (events.foldl (fun (w, seen) e => (w.apply hooks depth e, seen ++ w.launches hooks depth e))
        (w, seen)).1 = events.foldl (apply hooks depth) w := by
    induction events generalizing w seen with
    | nil => rfl
    | cons e events ih => exact ih _ _
  unfold launchesIn
  rw [List.foldl_append, List.foldl_cons, List.foldl_nil]
  simp only [beside]
  rfl

/-- With hooks that make no calls, operations begin when calls are admitted. -/
theorem launchesIn_eq {hooks : Hooks} (quiet : hooks.Quiet) (depth : Nat) (b : Breaker)
    (events : List Event) :
    launchesIn hooks depth b events = b.admissions (play hooks depth b events).touches := by
  have silent := quiet.silent depth
  induction events using List.reverseRecOn with
  | nil => rfl
  | append_singleton events e ih =>
    have led := (play_led hooks depth b events).breaker
    rw [launchesIn_concat, ih, play_concat]
    have new {touches : List Touch}
        (h : (play hooks depth b events).launches hooks depth e =
          (play hooks depth b events).circuit.breaker.admissions touches) :
        b.admissions (play hooks depth b events).touches ++
            (play hooks depth b events).launches hooks depth e =
          b.admissions ((play hooks depth b events).touches ++ touches) := by
      rw [Breaker.admissions_append, h, led]
      rfl
    cases e with
    | begin =>
      refine new ?_
      simp only [launches, silent.askTouches, silent.ask_now, Breaker.admissions, Breaker.letIn,
        List.append_nil]
      rfl
    | finish outcome =>
      simp only [apply]
      split
      · exact List.append_nil _
      · exact new (silent.admissions_conclude _ _ _).symm
    | perform call => exact new (silent.performLaunches call _)
    | drop | pass d => exact List.append_nil _

end World

/-! ## Rejected calls -/

/-- A call made at `c` is rejected, whatever it is: its operation does not begin, no hook
is notified, and nothing changes but for an entry in the journal. -/
structure Rejecting (c : Circuit) : Prop where
  ask : ∀ listen, c.ask listen = (false, c.log .callRejected)
  perform : ∀ listen call, c.perform listen call = (.mk .rejected [], c.log .callRejected)
  launches : ∀ listen call, performLaunches listen call c = []
  begins : ∀ hooks depth (w : World), w.circuit = c → w.apply hooks depth .begin =
    { w with circuit := c.log .callRejected, touches := w.touches ++ [.ask c.now] }

theorem rejecting_of_ask {c : Circuit} (rejected : (c.breaker.ask c.now).1 = false) : Rejecting c := by
  have asked := Breaker.ask_of_rejected rejected
  have ask (listen : Listener) : c.ask listen = (false, c.log .callRejected) := by
    simp only [Circuit.ask, asked, announce, Bool.false_eq_true, if_false]
  have touches (echo : Echo) : askTouches echo c = [.ask c.now] := by
    simp only [askTouches, asked, announceTouches]
  exact
    { ask := ask
      perform := fun listen call => by
        obtain ⟨inner, takes, outcome⟩ := call
        simp only [Circuit.perform, ask, Bool.false_eq_true, if_false]
      launches := fun listen call => by
        obtain ⟨inner, takes, outcome⟩ := call
        simp only [performLaunches, ask, Bool.false_eq_true, if_false]
      begins := fun hooks depth w hw => by
        subst hw
        simp only [World.apply, ask, touches, Bool.false_eq_true, if_false] }

end Circuit

/-- Work behind a breaker that rejects it is not started. -/
theorem Operation.guarded_start_of_rejected {S ι σ α : Type} (hooks : Circuit.Hooks)
    (op : Operation S ι σ α) (request : ι) (n : Nat) (scope : Scope) (now : Nat)
    (w : Setting (Guarded S)) (rejected : (w.site.breaker.ask now).1 = false) :
    (op.guarded hooks).start request n scope now w =
      (w.log .callRejected, .finished (.failure .circuitOpen)) := by
  have ask := (@Circuit.rejecting_of_ask ⟨w.site.breaker, now, w.journal, w.site.events⟩ rejected).ask
  simp only [guarded, Guarded.use, ask, Bool.false_eq_true, if_false]
  rfl

namespace Circuit

open Breaker (Touch Told Ordered Asked times)

/-! ## Every run -/

/-- The law of the window for a breaker `b` that was not used before, and for a run from
it to the world `w`. -/
structure Windowed (b : Breaker) (hooks : Hooks) (depth : Nat) (events : List Event) (w : World) :
    Prop where
  /-- Whenever it is asked, after any uses in any order, as long as the clock does not go
  back. -/
  asked : ∀ touches now, Ordered (touches ++ [.ask now]) →
    Asked (b.replay touches).1 (b.replay touches).2 now
  settings : ∀ touches, (b.replay touches).1.resetTimeout = b.resetTimeout
  /-- Only failures open it, -/
  opens : ∀ touches t, (b.replay touches).1.state ≠ .opened →
    (b.replay (touches ++ [t])).1.state = .opened → ∃ s, t = .fail s
  /-- and more of them keep it open. -/
  stays : ∀ touches s, (b.replay touches).1.state = .opened →
    (b.replay (touches ++ [.fail s])).1.state = .opened
  /-- From a failure that opened it or found it open, nothing is admitted until the reset
  timeout has passed. -/
  window : ∀ touches s later, Ordered (touches ++ .fail s :: later) →
    (b.replay (touches ++ [.fail s])).1.state = .opened →
      ∀ t ∈ (b.replay (touches ++ [.fail s])).1.admissions later, s + b.resetTimeout < t
  /-- The run uses it, and its clock does not go back. -/
  uses : w.circuit.breaker = (b.replay w.touches).1
  ordered : Ordered w.touches ∧ ∀ t ∈ times w.touches, t ≤ w.circuit.now
  /-- With hooks that make no calls, operations begin when calls are admitted, -/
  launches : hooks.Quiet → World.launchesIn hooks depth b events = b.admissions w.touches
  /-- so that after a failure by which it is open none begins in the window. -/
  cooling : hooks.Quiet → ∀ before s after, w.touches = before ++ .fail s :: after →
    (b.replay (before ++ [.fail s])).1.state = .opened →
      World.launchesIn hooks depth b events = b.admissions (before ++ [.fail s]) ++
        (b.replay (before ++ [.fail s])).1.admissions after ∧
      ∀ t ∈ (b.replay (before ++ [.fail s])).1.admissions after, s + b.resetTimeout < t
  /-- A rejected call does nothing, wherever it is made, -/
  rejecting : ∀ c : Circuit, (c.breaker.ask c.now).1 = false → Rejecting c
  /-- and whatever work it stands for. -/
  guarded : ∀ {S ι σ α : Type} (op : Operation S ι σ α) (request : ι) (n : Nat) (scope : Scope)
    (now : Nat) (s : Setting (Guarded S)), (s.site.breaker.ask now).1 = false →
      (op.guarded hooks).start request n scope now s =
        (s.log .callRejected, .finished (.failure .circuitOpen))

/-- **The window of an open breaker.** It holds of every run, whatever calls are made in
it and however they interleave. -/
theorem play_windowed (threshold : UInt64) (resetTimeout : Nat) (hooks : Hooks) (depth : Nat)
    (events : List Event) :
    Windowed (Breaker.new threshold.toNat resetTimeout) hooks depth events
      (World.play hooks depth (Breaker.new threshold.toNat resetTimeout) events) := by
  have fits := threshold_new_le threshold resetTimeout
  have told (touches) := Breaker.told_replay (Told.new threshold.toNat resetTimeout) fits touches
  have settings (touches) :=
    ((Breaker.new threshold.toNat resetTimeout).replay_settings touches).2
  have led := World.play_led hooks depth (Breaker.new threshold.toNat resetTimeout) events
  have timed := World.play_course timed_composes hooks depth
    (Breaker.new threshold.toNat resetTimeout) events
  refine
    { asked := fun touches now ordered => ?_
      settings := settings
      opens := fun touches t closed opened => ?_
      stays := fun touches s opened => ?_
      window := Breaker.window_replay _
      uses := led.breaker
      ordered := ⟨timed.ordered, fun t ht => (timed.within t ht).2⟩
      launches := fun quiet => World.launchesIn_eq quiet depth _ events
      cooling := fun quiet before s after he opened => ⟨?_, ?_⟩
      rejecting := fun c rejected => rejecting_of_ask rejected
      guarded := fun op request n scope now s rejected =>
        op.guarded_start_of_rejected hooks request n scope now s rejected }
  · refine (told touches).asked_of_le fun failedAt last => ?_
    unfold Ordered at ordered
    rw [Breaker.times_append] at ordered
    obtain ⟨-, -, past⟩ := List.pairwise_append.1 ordered
    exact past failedAt (Breaker.mem_times_of_lastFailure last) now (List.mem_singleton_self _)
  · rw [Breaker.replay_concat] at opened
    exact Breaker.eq_fail_of_opened closed opened
  · rw [Breaker.replay_concat, Breaker.touch_fail_opened opened]
    exact opened
  · rw [World.launchesIn_eq quiet, he, ← Breaker.admissions_append, List.append_assoc,
      List.singleton_append]
  · exact Breaker.window_replay _ before s after (he ▸ timed.ordered) opened

/-- The first of two calls opens the breaker and the other one fails at 5. A call at 14 is
rejected, and one at 15 begins. -/
def reopened : List Event :=
  [.begin, .begin, .finish (.failure (.plain "down")), .pass 5, .finish (.failure (.plain "down")),
    .pass 9, .begin, .pass 1, .begin]

/-- No operation begins in the window, which the second failure has prolonged. -/
theorem reopened_windowed :
    let b := Breaker.new 1 9
    let w n := World.play .silent 0 b (reopened.take n)
    Windowed b .silent 0 reopened (w 9) ∧
      [2, 3, 7, 9].map (fun n => (w n).circuit.breaker.state) = [.closed, .opened, .opened, .halfOpen] ∧
      (w 7).inFlight = 0 ∧ (w 7).circuit.journal.head? = some .callRejected ∧
      World.launchesIn .silent 0 b reopened = [0, 0, 15] :=
  ⟨play_windowed 1 9 .silent 0 reopened, rfl, rfl, rfl, rfl⟩

end Circuit

end CallGuard
