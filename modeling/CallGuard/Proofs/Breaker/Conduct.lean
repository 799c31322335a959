/-
How calls on one circuit are conducted, whatever its hooks do: a call made from beginning to end
agrees with its steps, and of calls whose steps are taken in any order each has a life of its own,
returns what its operation has ended with, and has its failure reported once.
-/
import CallGuard.Proofs.Breaker.Nested
import CallGuard.Proofs.Breaker.Trace
import CallGuard.Scenario.Calls
import Mathlib.Data.List.Basic

namespace CallGuard

/-- The failure that a notice tells of, if it does. -/
def Notice.failures : Notice → List Failure
  | .changed _ => []
  | .failed f => [f]

namespace Circuit

/-! ## What the hook of errors hears -/

/-- The failures of which the hook of errors was notified. -/
def heardFailures (events : List HookEvent) : List Failure :=
  events.filterMap fun e =>
    match e with
    | .heard (.failed f) _ => some f
    | .heard (.changed _) _ | .called _ => none

/-- The failures of the calls that hooks made. -/
def calledFailures (events : List HookEvent) : List Failure :=
  events.flatMap fun e =>
    match e with
    | .called reply => reply.failures
    | .heard _ _ => []

/-- From one circuit to another the hook of errors was notified once of each of some failures, and
once of each failure of a call that hooks made meanwhile; these calls, too, were answered as calls
are. -/
def Reported (hooks : Hooks) (c : Circuit) (failures : List Failure) (c' : Circuit) : Prop :=
  ∃ news, c'.events = news ++ c.events ∧
    (heardFailures news).Perm (failures ++ calledFailures news) ∧
    ∀ reply, .called reply ∈ news → ∃ notice call, hooks.reaction notice = some call ∧ Fits call reply

namespace Reported

variable {hooks : Hooks} {c c' c'' : Circuit} {failures failures' : List Failure}

theorem of_same (same : c'.events = c.events) : Reported hooks c [] c' :=
  ⟨[], same, .refl _, by simp⟩

theorem trans (h : Reported hooks c failures c') (h' : Reported hooks c' failures' c'') :
    Reported hooks c (failures ++ failures') c'' := by
  obtain ⟨news, he, heard, fits⟩ := h
  obtain ⟨news', he', heard', fits'⟩ := h'
  refine ⟨news' ++ news, by rw [he', he, List.append_assoc], ?_, fun reply hm => ?_⟩
  · rw [List.perm_iff_count] at heard heard' ⊢
    intro f
    have first := heard f
    have second := heard' f
    simp only [heardFailures, calledFailures, List.filterMap_append, List.flatMap_append,
      List.count_append] at first second ⊢
    omega
  · exact (List.mem_append.1 hm).elim (fits' reply) (fits reply)

theorem congr (h : Reported hooks c failures c') (same : failures.Perm failures') :
    Reported hooks c failures' c' := by
  obtain ⟨news, he, heard, fits⟩ := h
  exact ⟨news, he, heard.trans (same.append_right _), fits⟩

theorem hear (c : Circuit) (notice : Notice) : Reported hooks c notice.failures (c.hear notice) := by
  refine ⟨[.heard notice c.breaker.view], rfl, ?_, by simp⟩
  cases notice with
  | changed change => exact .refl _
  | failed f => exact .refl _

theorem called {notice : Notice} {call : Call} {reply : CallReply}
    (mine : hooks.reaction notice = some call) (answered : Fits call reply)
    (h : Reported hooks c reply.failures c') :
    Reported hooks c [] { c' with events := .called reply :: c'.events } := by
  obtain ⟨news, he, heard, fits⟩ := h
  refine ⟨.called reply :: news, by rw [he, List.cons_append], heard, fun other hm => ?_⟩
  rcases List.mem_cons.1 hm with same | hm
  · cases same
    exact ⟨notice, call, mine, answered⟩
  · exact fits other hm

end Reported

/-- A listener that has each failure reported once, its own notice and whatever comes of it. -/
def Candid (hooks : Hooks) (listen : Listener) : Prop :=
  ∀ notice c, Reported hooks c notice.failures (listen notice c)

section Listeners

variable {hooks : Hooks} {listen : Listener}

theorem announce_reported (h : Candid hooks listen) (change : Option CircuitChange) (c : Circuit) :
    Reported hooks c [] (announce listen change c) := by
  cases change with
  | none => exact .of_same rfl
  | some change =>
    have logged : Reported hooks c [] (c.log (.circuitChanged change)) := .of_same rfl
    exact logged.trans (h (.changed change) _)

theorem ask_reported (h : Candid hooks listen) (c : Circuit) :
    Reported hooks c [] (c.ask listen).2 := by
  have asked : Reported hooks c [] { c with breaker := (c.breaker.ask c.now).2.1 } := .of_same rfl
  exact (asked.trans (announce_reported h _ _)).trans (.of_same rfl)

theorem conclude_reported (h : Candid hooks listen) (outcome : Outcome Nat) (c : Circuit) :
    Reported hooks c (resultOf outcome).operation?.toList (conclude listen outcome c) := by
  cases outcome with
  | value n =>
    have taken : Reported hooks c [] { c with breaker := c.breaker.succeed.1 } := .of_same rfl
    exact taken.trans (announce_reported h _ _)
  | failure f =>
    have taken : Reported hooks c [] { c with breaker := (c.breaker.fail c.now).1 } := .of_same rfl
    exact (taken.trans (announce_reported h _ _)).trans (h (.failed f) _)
  | panic message => exact .of_same rfl

mutual

theorem perform_reported (h : Candid hooks listen) : ∀ (call : Call) (c : Circuit),
    Reported hooks c (perform listen call c).1.failures (perform listen call c).2
  | .mk inner takes outcome, c => by
    have asked := ask_reported h c
    simp only [perform]
    cases admitted : (c.ask listen).1 with
    | false => exact asked
    | true =>
      have worked := performAll_reported h inner (c.ask listen).2
      have concluded := conclude_reported h outcome
        { (performAll listen inner (c.ask listen).2).2 with
          now := (performAll listen inner (c.ask listen).2).2.now + takes }
      have waited := Reported.trans (.of_same rfl) concluded
      exact asked.trans (worked.trans waited)

theorem performAll_reported (h : Candid hooks listen) : ∀ (calls : List Call) (c : Circuit),
    Reported hooks c (CallReply.failuresAll (performAll listen calls c).1) (performAll listen calls c).2
  | [], _ => .of_same rfl
  | call :: calls, c => (perform_reported h call c).trans (performAll_reported h calls _)

end

/-- The failures of all operations that have ended, the latest first. -/
def Desk.failures (d : Desk) : List Failure := d.answers.filterMap (·.2.operation?)

theorem Desk.apply_reported (h : Candid hooks listen) (d : Desk) (s : Step) :
    ∃ news, (d.apply listen s).failures = news ++ d.failures ∧
      Reported hooks d.circuit news (d.apply listen s).circuit := by
  cases s with
  | begin =>
    refine ⟨[], ?_, ask_reported h d.circuit⟩
    simp only [failures, Desk.apply]
    cases (d.circuit.ask listen).1 with
    | true => rfl
    | false => simp [CallResult.operation?]
  | finish call outcome =>
    simp only [failures, Desk.apply]
    split
    · refine ⟨_, ?_, conclude_reported h outcome d.circuit⟩
      cases outcome <;> simp [resultOf, CallResult.operation?]
    · exact ⟨[], rfl, .of_same rfl⟩
  | drop call => exact ⟨[], rfl, .of_same rfl⟩
  | pass t => exact ⟨[], rfl, .of_same rfl⟩

theorem Desk.run_reported (h : Candid hooks listen) (c : Circuit) (steps : List Step) :
    Reported hooks c ((opened c).run listen steps).failures ((opened c).run listen steps).circuit := by
  induction steps using List.reverseRecOn with
  | nil => exact .of_same rfl
  | append_singleton steps s ih =>
    obtain ⟨news, failures, reported⟩ := apply_reported h ((opened c).run listen steps) s
    rw [run_concat, failures]
    exact (ih.trans reported).congr List.perm_append_comm

end Listeners

/-- Where errors have a hook, it is notified of each failure once, whichever call it was that failed. -/
theorem runHooks_candid {hooks : Hooks} (loud : hooks.onError = true) (depth : Nat) :
    Candid hooks (runHooks hooks depth) := by
  have unheard (notice : Notice) (c : Circuit) (h : ¬hooks.hears notice = true) :
      Reported hooks c notice.failures c := by
    cases notice with
    | changed change => exact .of_same rfl
    | failed f => exact absurd loud h
  -- A hook's call is heard by hooks one level further down.
  induction depth with
  | zero =>
    intro notice c
    unfold runHooks
    split
    · exact .hear c notice
    · exact unheard notice c ‹_›
  | succ depth ih =>
    intro notice c
    unfold runHooks
    split
    · have heard : Reported hooks c notice.failures (c.hear notice) := .hear c notice
      cases mine : hooks.reaction notice with
      | none => exact heard
      | some call =>
        have answered :=
          Reported.called mine (perform_fits call _) (perform_reported ih call (c.hear notice))
        have all := heard.trans answered
        rw [List.append_nil] at all
        exact all
    · exact unheard notice c ‹_›

/-! ## Calls by name -/

/-- A step of calls that have names, where so many were begun before. -/
def nameStep (name : Nat → String) : Scenario.Calls × Nat → Step → Scenario.Calls × Nat
  | (s, begun), .begin => ((s.start (name begun)).2, begun + 1)
  | (s, begun), .finish call outcome => ((s.finish (name call) outcome).2, begun)
  | (s, begun), .drop call => ((s.drop (name call)).2, begun)
  | (s, begun), .pass t => (s.advance t, begun)

/-- The calls on a desk, by name. -/
def Desk.named (name : Nat → String) (hooks : Hooks) (d : Desk) : Scenario.Calls × Nat :=
  (⟨d.circuit, hooks, d.pending.map name⟩, d.begun)

theorem Desk.named_apply {name : Nat → String} (distinct : Function.Injective name) (hooks : Hooks)
    {d : Desk} (fresh : d.begun ∉ d.pending) (s : Step) :
    (d.apply (runHooks hooks 1) s).named name hooks = nameStep name (d.named name hooks) s := by
  have pending (call : Nat) : name call ∈ d.pending.map name ↔ call ∈ d.pending :=
    List.mem_map_of_injective distinct
  cases s with
  | begin =>
    have unused : (d.pending.map name).erase (name d.begun) = d.pending.map name :=
      List.erase_of_not_mem (mt (pending d.begun).1 fresh)
    simp only [Desk.apply, named, nameStep, Scenario.Calls.start, Scenario.Calls.listener, unused]
    cases (d.circuit.ask (runHooks hooks 1)).1 with
    | true => rfl
    | false => rfl
  | finish call outcome =>
    simp only [Desk.apply, named, nameStep, Scenario.Calls.finish, Scenario.Calls.listener,
      List.contains_iff_mem, pending]
    split
    · simp only [List.map_erase distinct]
    · rfl
  | drop call => simp only [Desk.apply, named, nameStep, Scenario.Calls.drop, List.map_erase distinct]
  | pass t => rfl

/-! ## How calls are conducted -/

namespace Desk

variable {listen : Listener} {c : Circuit} {d : Desk} {call : Nat}

theorem answer?_run (old : call < d.begun) (settled : call ∉ d.pending) (steps : List Step) :
    answer? (d.run listen steps).answers call = answer? d.answers call := by
  induction steps generalizing d with
  | nil => rfl
  | cons s steps ih =>
    obtain ⟨old', settled', same⟩ := answer?_apply listen old settled s
    exact (ih old' settled').trans same

theorem Orderly.answer_finished (h : Orderly listen c d) (mine : call ∈ d.pending)
    (outcome : Outcome Nat) (after : List Step) :
    answer? (d.run listen (.finish call outcome :: after)).answers call = some (resultOf outcome) := by
  have old : call < (d.apply listen (.finish call outcome)).begun := by
    simpa [Desk.apply, mine] using (h.pending call mine).1
  have gone : call ∉ (d.apply listen (.finish call outcome)).pending := by
    simpa [Desk.apply, mine] using h.single.not_mem_erase
  have answer :
      answer? (d.apply listen (.finish call outcome)).answers call = some (resultOf outcome) := by
    simp [Desk.apply, mine, answer?_cons_self]
  rw [Desk.run, List.foldl_cons]
  exact (answer?_run old gone after).trans answer

theorem Orderly.answer_dropped (h : Orderly listen c d) (mine : call ∈ d.pending) (after : List Step) :
    answer? (d.run listen (.drop call :: after)).answers call = none := by
  have old : call < (d.apply listen (.drop call)).begun := (h.pending call mine).1
  have gone : call ∉ (d.apply listen (.drop call)).pending := h.single.not_mem_erase
  rw [Desk.run, List.foldl_cons]
  exact (answer?_run old gone after).trans (h.pending call mine).2

theorem run_named {name : Nat → String} (distinct : Function.Injective name) (hooks : Hooks)
    (c : Circuit) (steps : List Step) :
    steps.foldl (nameStep name) ((opened c).named name hooks) =
      ((opened c).run (runHooks hooks 1) steps).named name hooks := by
  induction steps using List.reverseRecOn with
  | nil => rfl
  | append_singleton steps s ih =>
    have orderly := Orderly.run (runHooks hooks 1) c steps
    have fresh : ((opened c).run (runHooks hooks 1) steps).begun ∉
        ((opened c).run (runHooks hooks 1) steps).pending :=
      fun hm => Nat.lt_irrefl _ (orderly.pending _ hm).1
    rw [List.foldl_concat, ih, run_concat, named_apply distinct hooks fresh]

end Desk

open Desk (answer? deedsFor)

/-- A call with all calls in it, made on a desk from beginning to end, and its steps. -/
structure Flattened (listen : Listener) (call : Call) (d : Desk) : Prop where
  /-- The same answers, and in the end the same circuit. -/
  gives : Gives d (d.run listen (steps listen call d)) [(perform listen call d.circuit).1]
    (perform listen call d.circuit).2
  /-- The same circuits in between, with all that can be read off them and all that hooks did. -/
  moments : d.moments listen (steps listen call d) = performMoments listen call d.circuit
  /-- Each call in it that is admitted returns what its operation has ended with, and nothing comes
  of a call that is rejected. -/
  fits : Fits call (perform listen call d.circuit).1
  /-- Hooks are told of each failure in it once, at whatever depth they run. -/
  reported : ∀ hooks depth, hooks.onError = true → listen = runHooks hooks depth →
    Reported hooks d.circuit (perform listen call d.circuit).1.failures (perform listen call d.circuit).2

/-- Calls whose steps were taken from a circuit `c` on, which has led to a desk `d`. -/
structure Conducted (listen : Listener) (c : Circuit) (steps : List Step) (d : Desk) : Prop where
  /-- All that was done has made the circuit what it is. -/
  account : (d.deeds.map (·.2)).foldl (Deed.run listen) c = d.circuit
  /-- It was done for one of the calls, but that time has passed. -/
  owned : ∀ owner deed, (owner, deed) ∈ d.deeds →
    (∃ call < d.begun, owner = some call) ∨ owner = none ∧ ∃ t, deed = .pass t
  /-- An outcome is taken in once, and none of a call that panicked or was dropped: there, no hook
  is notified after the admission. The hook of errors is notified last. -/
  lives : ∀ call < d.begun, Life (answer? d.answers call) (deedsFor d.deeds call)
  /-- A call that was admitted returns what its operation has ended with, whatever was done before
  or after. -/
  finished : ∀ before call outcome after, steps = before ++ .finish call outcome :: after →
    call ∈ ((Desk.opened c).run listen before).pending →
      ∃ result, answer? d.answers call = some result ∧ Own outcome result
  dropped : ∀ before call after, steps = before ++ .drop call :: after →
    call ∈ ((Desk.opened c).run listen before).pending → answer? d.answers call = none
  /-- A call that was rejected, or has ended, does not end again. -/
  settled : ∀ call outcome, answer? d.answers call ≠ none → d.apply listen (.finish call outcome) = d
  /-- Hooks are told of each failure once. -/
  reported : ∀ hooks depth, hooks.onError = true → listen = runHooks hooks depth →
    Reported hooks c d.failures d.circuit
  /-- It is the same for calls that have names instead of numbers. -/
  named : ∀ hooks name, Function.Injective name → listen = runHooks hooks 1 →
    steps.foldl (nameStep name) ((Desk.opened c).named name hooks) = d.named name hooks
  /-- Any call can be made next from beginning to end, or in its steps. -/
  nested : ∀ call, Flattened listen call d

/-- **A call agrees with its steps, and all calls are answered as their operations end.** It holds
whatever the circuit was at first, whatever its hooks do, and in whatever order the steps are
taken. -/
theorem run_conducted (listen : Listener) (c : Circuit) (steps : List Step) :
    Conducted listen c steps ((Desk.opened c).run listen steps) := by
  have orderly := Desk.Orderly.run listen c
  refine ⟨(orderly steps).circuit, (orderly steps).owner, (orderly steps).lives, ?_, ?_, ?_, ?_, ?_,
    fun call => ?_⟩
  · rintro before call outcome after rfl mine
    rw [Desk.run_append]
    exact ⟨_, (orderly before).answer_finished mine outcome after, own_resultOf outcome⟩
  · rintro before call after rfl mine
    rw [Desk.run_append]
    exact (orderly before).answer_dropped mine after
  · intro call outcome answered
    exact if_neg fun mine => answered ((orderly steps).pending call mine).2
  · rintro hooks depth loud rfl
    exact Desk.run_reported (runHooks_candid loud depth) c steps
  · rintro hooks name distinct rfl
    exact Desk.run_named distinct hooks c steps
  · refine ⟨perform_gives call _, perform_moments call _, perform_fits call _, ?_⟩
    rintro hooks depth loud rfl
    exact perform_reported (runHooks_candid loud depth) call _

/-- A call in whose course the breaker opens: the first call in it fails, the second is rejected, and
the call returns its own value. -/
example :
    let outer : Call := .mk [.mk [] 2 (.failure .circuitOpen), .mk [] 1 (.value 3)] 4 (.value 5)
    let d : Desk := .opened ⟨.new 1 9, 0, [], []⟩
    steps (runHooks .silent 1) outer d = [.begin, .begin, .pass 2, .finish 1 (.failure .circuitOpen),
      .begin, .pass 4, .finish 0 (.value 5)] ∧
    (d.run (runHooks .silent 1) (steps (runHooks .silent 1) outer d)).answers =
      [(0, .value 5), (2, .rejected), (1, .failed .circuitOpen)] :=
  ⟨rfl, by decide +kernel⟩

end Circuit

end CallGuard
