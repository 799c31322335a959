/-
Which uses of the breaker come of calls through a circuit, in order: those of
the calls themselves, of the calls their operations make, and of the calls that
hooks make on being notified. Calls and hooks are runs (`Runs`), and what holds of each
single thing that can happen, and of one after another, holds of every run
(`Course.Composes`).
-/
import CallGuard.Breaker.Circuit
import CallGuard.Proofs.Breaker.Counts

namespace CallGuard

namespace Circuit

open Breaker (Touch)

/-- What a listener does with the breaker when it takes in a notice. -/
abbrev Echo := Notice → Circuit → List Touch

/-- The uses that come of reporting a change of state. -/
def announceTouches (echo : Echo) : Option CircuitChange → Circuit → List Touch
  | none, _ => []
  | some change, c => echo (.changed change) (c.log (.circuitChanged change))

/-- The uses that come of asking. -/
def askTouches (echo : Echo) (c : Circuit) : List Touch :=
  let (_, breaker, change) := c.breaker.ask c.now
  .ask c.now :: announceTouches echo change { c with breaker := breaker }

/-- The uses that come of taking in how a call ended. -/
def concludeTouches {α : Type} (listen : Listener) (echo : Echo) : Outcome α → Circuit → List Touch
  | .value _, c =>
    let (breaker, change) := c.breaker.succeed
    .succeed :: announceTouches echo change { c with breaker := breaker }
  | .failure f, c =>
    let (breaker, change) := c.breaker.fail c.now
    let c' := { c with breaker := breaker }
    .fail c.now :: (announceTouches echo change c' ++ echo (.failed f) (announce listen change c'))
  | .panic _, _ => []

mutual

/-- The uses that come of a call, from beginning to end. -/
def performTouches (listen : Listener) (echo : Echo) : Call → Circuit → List Touch
  | .mk inner takes outcome, c =>
    let admitted := (c.ask listen).1
    let c' := (c.ask listen).2
    askTouches echo c ++
      if admitted then
        let c'' := (performAll listen inner c').2
        performAllTouches listen echo inner c' ++
          concludeTouches listen echo outcome { c'' with now := c''.now + takes }
      else []

/-- The uses that come of calls made one after the other. -/
def performAllTouches (listen : Listener) (echo : Echo) : List Call → Circuit → List Touch
  | [], _ => []
  | call :: calls, c =>
    performTouches listen echo call c ++ performAllTouches listen echo calls (perform listen call c).2

end

/-- The echo of hooks: a hook uses the breaker for the call it makes. -/
def hookTouches (hooks : Hooks) : (depth : Nat) → Echo
  | depth, notice, c =>
    if hooks.hears notice then
      match depth, hooks.reaction notice with
      | depth + 1, some call =>
        performTouches (runHooks hooks depth) (hookTouches hooks depth) call
          { c with events := .heard notice c.breaker.view :: c.events }
      | _, _ => []
    else []

/-! ## Runs

What calls and hooks do with a circuit, and the uses of the breaker that come of it. -/

/-- A relation of two circuits and the uses of the breaker that lead from one to the other. -/
abbrev Course := Circuit → List Touch → Circuit → Prop

/-- A hook is notified. -/
def hear (notice : Notice) (c : Circuit) : Circuit :=
  { c with events := .heard notice c.breaker.view :: c.events }

/-- Anything that code of one thread can do with a circuit, where some notices have a hook.
A hook does any such thing as well when it is notified, before the code goes on that it
interrupts, so hooks run inside of hooks to any finite depth. -/
inductive Runs (hears : Notice → Bool) : Course
  /-- Something is logged, or time passes. -/
  | idle (c now journal) : c.now ≤ now → Runs hears c [] { c with now := now, journal := journal }
  | trans {c c' c'' touches touches'} : Runs hears c touches c' → Runs hears c' touches' c'' →
      Runs hears c (touches ++ touches') c''
  /-- The breaker is used, at the circuit's own time, and the change is announced if there is
  one. -/
  | use (c t listen echo) : (∀ now, t.time? = some now → now = c.now) →
      (∀ notice d, hears notice = true → Runs hears (d.hear notice) (echo notice d) (listen notice d)) →
      (∀ notice d, hears notice = false → echo notice d = [] ∧ listen notice d = d) →
      Runs hears c (t :: announceTouches echo (c.breaker.turn t) { c with breaker := c.breaker.touch t })
        (announce listen (c.breaker.turn t) { c with breaker := c.breaker.touch t })
  | failed (c f) : hears (.failed f) = true → Runs hears c [] (c.hear (.failed f))
  | called (c reply) : Runs hears c [] { c with events := .called reply :: c.events }

/-- A listener that runs hooks, and an echo that tells what they do. -/
structure Hooked (hears : Notice → Bool) (listen : Listener) (echo : Echo) : Prop where
  heard : ∀ notice c, hears notice = true → Runs hears (c.hear notice) (echo notice c) (listen notice c)
  unheard : ∀ notice c, hears notice = false → echo notice c = [] ∧ listen notice c = c

section Runs

variable {hears : Notice → Bool} {listen : Listener} {echo : Echo}

theorem Runs.rest (c : Circuit) : Runs hears c [] c := .idle c c.now c.journal (Nat.le_refl _)

theorem Runs.log (c : Circuit) (entry : Entry) : Runs hears c [] (c.log entry) :=
  .idle c c.now (entry :: c.journal) (Nat.le_refl _)

theorem Hooked.use (h : Hooked hears listen echo) (c : Circuit) (t : Touch)
    (time : ∀ now, t.time? = some now → now = c.now) :
    Runs hears c (t :: announceTouches echo (c.breaker.turn t) { c with breaker := c.breaker.touch t })
      (announce listen (c.breaker.turn t) { c with breaker := c.breaker.touch t }) :=
  .use c t listen echo time h.heard h.unheard

theorem Hooked.failed (h : Hooked hears listen echo) (c : Circuit) (f : Failure) :
    Runs hears c (echo (.failed f) c) (listen (.failed f) c) := by
  cases hf : hears (.failed f) with
  | true => exact .trans (.failed c f hf) (h.heard _ c hf)
  | false =>
    obtain ⟨silent, same⟩ := h.unheard (.failed f) c hf
    rw [silent, same]
    exact .rest c

theorem ask_runs (h : Hooked hears listen echo) (c : Circuit) :
    Runs hears c (askTouches echo c) (c.ask listen).2 := by
  have used := h.use c (.ask c.now) fun now hn => (Option.some.inj hn).symm
  have logged := Runs.trans used (.log _ (if (c.breaker.ask c.now).1 then
    .callAdmitted (announce listen (c.breaker.ask c.now).2.2
      { c with breaker := (c.breaker.ask c.now).2.1 }).breaker.state else .callRejected))
  rw [List.append_nil] at logged
  exact logged

theorem conclude_runs {α : Type} (h : Hooked hears listen echo) (outcome : Outcome α) (c : Circuit) :
    Runs hears c (concludeTouches listen echo outcome c) (conclude listen outcome c) := by
  cases outcome with
  | value a => exact h.use c .succeed fun now hn => nomatch hn
  | failure f =>
    have used := h.use c (.fail c.now) fun now hn => (Option.some.inj hn).symm
    exact .trans used (h.failed _ f)
  | panic message => exact .rest c

mutual

/-- A call runs, however deep the calls in it are. -/
theorem perform_runs (h : Hooked hears listen echo) : ∀ (call : Call) (c : Circuit),
    Runs hears c (performTouches listen echo call c) (perform listen call c).2
  | .mk inner takes outcome, c => by
    have asked := ask_runs h c
    simp only [performTouches, perform]
    cases hadmitted : (c.ask listen).1 with
    | false =>
      simp only [Bool.false_eq_true, if_false]
      rw [List.append_nil]
      exact asked
    | true =>
      simp only [if_true]
      have worked := performAll_runs h inner (c.ask listen).2
      have waited := Runs.trans worked (.idle _ ((performAll listen inner (c.ask listen).2).2.now + takes)
        (performAll listen inner (c.ask listen).2).2.journal (Nat.le_add_right _ _))
      rw [List.append_nil] at waited
      exact .trans asked (.trans waited (conclude_runs h outcome _))

theorem performAll_runs (h : Hooked hears listen echo) : ∀ (calls : List Call) (c : Circuit),
    Runs hears c (performAllTouches listen echo calls c) (performAll listen calls c).2
  | [], c => .rest c
  | call :: calls, c => by
    simp only [performAllTouches, performAll]
    exact .trans (perform_runs h call c) (performAll_runs h calls _)

end

theorem hooks_hooked (hooks : Hooks) (depth : Nat) :
    Hooked hooks.hears (runHooks hooks depth) (hookTouches hooks depth) := by
  -- What a hook calls is heard by hooks one level further down.
  induction depth with
  | zero =>
    refine ⟨fun notice c hn => ?_, fun notice c hn => ?_⟩ <;> unfold runHooks hookTouches
    · rw [if_pos hn, if_pos hn]
      exact .rest _
    · rw [if_neg (Bool.eq_false_iff.1 hn), if_neg (Bool.eq_false_iff.1 hn)]
      exact ⟨rfl, rfl⟩
  | succ depth ih =>
    refine ⟨fun notice c hn => ?_, fun notice c hn => ?_⟩ <;> unfold runHooks hookTouches
    · rw [if_pos hn, if_pos hn]
      cases hooks.reaction notice with
      | none => exact .rest _
      | some call =>
        have answered := Runs.trans (perform_runs ih call (c.hear notice))
          (.called _ (perform (runHooks hooks depth) call (c.hear notice)).1)
        rw [List.append_nil] at answered
        exact answered
    · rw [if_neg (Bool.eq_false_iff.1 hn), if_neg (Bool.eq_false_iff.1 hn)]
      exact ⟨rfl, rfl⟩

end Runs

/-- A relation that holds of each single thing that can happen, and of one thing after
another, so that it holds of every run. -/
structure Course.Composes (R : Course) : Prop where
  trans : ∀ {c c' c'' touches touches'}, R c touches c' → R c' touches' c'' →
    R c (touches ++ touches') c''
  touch : ∀ c t, (∀ now, t.time? = some now → now = c.now) →
    R c [t] { c with breaker := c.breaker.touch t }
  idle : ∀ c now journal, c.now ≤ now → R c [] { c with now := now, journal := journal }
  hear : ∀ c notice, R c [] (c.hear notice)
  called : ∀ c reply, R c [] { c with events := .called reply :: c.events }

theorem Runs.course {hears : Notice → Bool} {R : Course} (hR : R.Composes) {c c' : Circuit}
    {touches : List Touch} (run : Runs hears c touches c') : R c touches c' := by
  induction run with
  | idle c now journal later => exact hR.idle c now journal later
  | trans _ _ first second => exact hR.trans first second
  | use c t listen echo time _ unheard heard =>
    have told (notice : Notice) (d : Circuit) : R d (echo notice d) (listen notice d) := by
      cases hn : hears notice with
      | true => exact hR.trans (hR.hear d notice) (heard notice d hn)
      | false =>
        obtain ⟨silent, same⟩ := unheard notice d hn
        rw [silent, same]
        exact hR.idle d d.now d.journal (Nat.le_refl _)
    refine hR.trans (hR.touch c t time) ?_
    generalize { c with breaker := c.breaker.touch t } = d
    cases c.breaker.turn t with
    | none => exact hR.idle d d.now d.journal (Nat.le_refl _)
    | some change =>
      have logged := hR.idle d d.now (.circuitChanged change :: d.journal) (Nat.le_refl _)
      exact hR.trans logged (told _ _)
  | failed c f _ => exact hR.hear c _
  | called c reply => exact hR.called c reply

/-! ## What a circuit does is what is told of it -/

/-- From one circuit to another the breaker was used like that, and whenever a hook
was notified it saw the breaker as it was by then. -/
structure Led (c : Circuit) (touches : List Touch) (c' : Circuit) : Prop where
  breaker : c'.breaker = (c.breaker.replay touches).1
  heard : ∃ news, c'.events = news ++ c.events ∧ ∀ notice seen, .heard notice seen ∈ news →
    ∃ earlier, earlier <+: touches ∧ seen = (c.breaker.replay earlier).1.view

namespace Led

variable {c c' c'' : Circuit} {touches touches' : List Touch}

theorem of_same (breaker : c'.breaker = c.breaker) (events : c'.events = c.events) : Led c [] c' where
  breaker := breaker
  heard := ⟨[], events, nofun⟩

theorem trans (h : Led c touches c') (h' : Led c' touches' c'') : Led c (touches ++ touches') c'' where
  breaker := by rw [h'.breaker, h.breaker, Breaker.replay_append]
  heard := by
    obtain ⟨news, he, hn⟩ := h.heard
    obtain ⟨news', he', hn'⟩ := h'.heard
    refine ⟨news' ++ news, by rw [he', he, List.append_assoc], fun notice seen hm => ?_⟩
    rcases List.mem_append.1 hm with hm | hm
    · obtain ⟨earlier, hp, hs⟩ := hn' notice seen hm
      refine ⟨touches ++ earlier, (List.prefix_append_right_inj touches).2 hp, ?_⟩
      rw [hs, h.breaker, Breaker.replay_append]
    · obtain ⟨earlier, hp, hs⟩ := hn notice seen hm
      exact ⟨earlier, hp.trans (List.prefix_append _ _), hs⟩

theorem hear (c : Circuit) (notice : Notice) : Led c [] (c.hear notice) where
  breaker := rfl
  heard := by
    refine ⟨[.heard notice c.breaker.view], rfl, fun n seen hm => ?_⟩
    cases List.mem_singleton.1 hm
    exact ⟨[], List.nil_prefix, rfl⟩

theorem called (c : Circuit) (reply : CallReply) :
    Led c [] { c with events := .called reply :: c.events } where
  breaker := rfl
  heard := by
    refine ⟨[.called reply], rfl, fun n seen hm => ?_⟩
    cases List.mem_singleton.1 hm

end Led

theorem led_composes : Course.Composes Led where
  trans := Led.trans
  touch _ _ _ := ⟨rfl, [], rfl, nofun⟩
  idle _ _ _ _ := .of_same rfl rfl
  hear := Led.hear
  called := Led.called

theorem Runs.led {hears : Notice → Bool} {c c' : Circuit} {touches : List Touch}
    (run : Runs hears c touches c') : Led c touches c' :=
  run.course led_composes

end Circuit

end CallGuard
