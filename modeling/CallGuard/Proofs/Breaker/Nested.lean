/-
Calls made from beginning to end, one inside the other, against calls made one step at a time. A
call with all calls in it comes to the same as the steps of which it consists: each call in it is
begun, and once the calls of its operation have been made and its time has passed it is ended, or
dropped if its operation panics.
-/
import CallGuard.Proofs.Breaker.Deeds

namespace CallGuard

namespace CallReply

mutual

/-- How many calls there are in a reply. -/
def size : CallReply → Nat
  | .mk _ inner => sizeAll inner + 1

/-- How many calls were made in all. -/
def sizeAll : List CallReply → Nat
  | [] => 0
  | reply :: replies => reply.size + sizeAll replies

end

mutual

/-- The answers in a reply, the latest first, if its call and those in it have numbers in the order
in which they were begun. Where an operation panicked nobody was answered. -/
def answers (call : Nat) : CallReply → List (Nat × CallResult)
  | .mk result inner =>
    (if result = .panicked then [] else [(call, result)]) ++ answersAll (call + 1) inner

/-- The answers to calls, numbered from `call` on, the latest first. -/
def answersAll (call : Nat) : List CallReply → List (Nat × CallResult)
  | [] => []
  | reply :: replies => answersAll (call + reply.size) replies ++ reply.answers call

end

mutual

/-- The failures of all operations in a reply, in the order in which they ended. -/
def failures : CallReply → List Failure
  | .mk result inner => failuresAll inner ++ result.operation?.toList

/-- The failures of calls, in the order in which they ended. -/
def failuresAll : List CallReply → List Failure
  | [] => []
  | reply :: replies => reply.failures ++ failuresAll replies

end

end CallReply

namespace Circuit

variable {listen : Listener}

/-! ## Calls in steps -/

/-- The last step of an admitted call. -/
def Step.close (call : Nat) : Outcome Nat → Step
  | .value n => .finish call (.value n)
  | .failure f => .finish call (.failure f)
  | .panic _ => .drop call

mutual

/-- The steps of which a call consists, with all calls in it. -/
def steps (listen : Listener) : Call → Desk → List Step
  | .mk inner takes outcome, d =>
    .begin ::
      if (d.circuit.ask listen).1 then
        stepsAll listen inner (d.apply listen .begin) ++ [.pass takes, .close d.begun outcome]
      else []

/-- The steps of calls that are made one after the other. -/
def stepsAll (listen : Listener) : List Call → Desk → List Step
  | [], _ => []
  | call :: calls, d =>
    steps listen call d ++ stepsAll listen calls (d.run listen (steps listen call d))

end

/-- The circuits after each of some steps. -/
def Desk.moments (listen : Listener) : Desk → List Step → List Circuit
  | _, [] => []
  | d, s :: steps => (d.apply listen s).circuit :: moments listen (d.apply listen s) steps

theorem Desk.moments_append (d : Desk) (steps steps' : List Step) :
    d.moments listen (steps ++ steps') =
      d.moments listen steps ++ (d.run listen steps).moments listen steps' := by
  induction steps generalizing d with
  | nil => rfl
  | cons s steps ih =>
    rw [List.cons_append, moments, moments, ih, List.cons_append]
    rfl

mutual

/-- The circuits in the course of a call that is made from beginning to end: when it has asked,
in the course of the calls in it, when its time has passed and when it has ended. -/
def performMoments (listen : Listener) : Call → Circuit → List Circuit
  | .mk inner takes outcome, c =>
    let (admitted, asked) := c.ask listen
    asked ::
      if admitted then
        let worked := (performAll listen inner asked).2
        let waited := { worked with now := worked.now + takes }
        performAllMoments listen inner asked ++ [waited, conclude listen outcome waited]
      else []

/-- The circuits in between, for calls that are made one after the other. -/
def performAllMoments (listen : Listener) : List Call → Circuit → List Circuit
  | [], _ => []
  | call :: calls, c =>
    performMoments listen call c ++ performAllMoments listen calls (perform listen call c).2

end

/-! ## The same comes of both -/

/-- From one desk to another calls were made that had these replies, and led to this circuit. -/
structure Gives (d d' : Desk) (replies : List CallReply) (c : Circuit) : Prop where
  circuit : d'.circuit = c
  begun : d'.begun = d.begun + CallReply.sizeAll replies
  pending : d'.pending = d.pending
  answers : d'.answers = CallReply.answersAll d.begun replies ++ d.answers

theorem Gives.cons {d d' d'' : Desk} {reply : CallReply} {replies : List CallReply} {c c' : Circuit}
    (h : Gives d d' [reply] c) (h' : Gives d' d'' replies c') : Gives d d'' (reply :: replies) c' where
  circuit := h'.circuit
  begun := by
    rw [h'.begun, h.begun]
    simp only [CallReply.sizeAll]
    omega
  pending := h'.pending.trans h.pending
  answers := by
    rw [h'.answers, h.answers, h.begun]
    simp only [CallReply.answersAll, CallReply.sizeAll, Nat.add_zero, List.nil_append, List.append_assoc]

theorem Desk.close {d : Desk} {call : Nat} {rest : List Nat} (pending : d.pending = call :: rest)
    (outcome : Outcome Nat) :
    (d.apply listen (.close call outcome)).circuit = conclude listen outcome d.circuit ∧
      (d.apply listen (.close call outcome)).begun = d.begun ∧
      (d.apply listen (.close call outcome)).pending = rest ∧
      (d.apply listen (.close call outcome)).answers =
        (if resultOf outcome = .panicked then [] else [(call, resultOf outcome)]) ++ d.answers := by
  cases outcome with
  | value n | failure f => simp [Step.close, Desk.apply, pending, resultOf]
  | panic message => simp [Step.close, Desk.apply, pending, resultOf, conclude]

/-- A call that was admitted, and made those calls, lets its time pass and ends. -/
theorem Gives.ended {d d' : Desk} {replies : List CallReply} {c : Circuit}
    (admitted : (d.circuit.ask listen).1 = true) (h : Gives (d.apply listen .begin) d' replies c)
    (takes : Nat) (outcome : Outcome Nat) :
    Gives d ((d'.apply listen (.pass takes)).apply listen (.close d.begun outcome))
      [.mk (resultOf outcome) replies] (conclude listen outcome { c with now := c.now + takes }) := by
  have begun : (d.apply listen .begin).pending = d.begun :: d.pending := by simp [Desk.apply, admitted]
  have unanswered : (d.apply listen .begin).answers = d.answers := by simp [Desk.apply, admitted]
  obtain ⟨rfl, count, pending, answers⟩ := h
  rw [begun] at pending
  rw [unanswered] at answers
  have waiting : (d'.apply listen (.pass takes)).pending = d.begun :: d.pending := pending
  obtain ⟨circuit, count', pending', answers'⟩ := Desk.close waiting outcome
  refine ⟨circuit, ?_, pending', ?_⟩
  · have before : (d'.apply listen (.pass takes)).begun = d.begun + 1 + CallReply.sizeAll replies := count
    rw [count', before]
    simp only [CallReply.sizeAll, CallReply.size]
    omega
  · have before : (d'.apply listen (.pass takes)).answers =
        CallReply.answersAll (d.begun + 1) replies ++ d.answers := answers
    rw [answers', before]
    simp only [CallReply.answersAll, CallReply.answers, List.nil_append, List.append_assoc]

theorem Desk.run_ended (d d' : Desk) (inner : List Step) (takes call : Nat) (outcome : Outcome Nat)
    (worked : (d.apply listen .begin).run listen inner = d') :
    d.run listen (.begin :: (inner ++ [.pass takes, .close call outcome])) =
      (d'.apply listen (.pass takes)).apply listen (.close call outcome) := by
  rw [← worked, run, List.foldl_cons]
  exact run_append listen _ inner _

mutual

/-- **A call comes to the same as its steps.** -/
theorem perform_gives : ∀ (call : Call) (d : Desk),
    Gives d (d.run listen (steps listen call d)) [(perform listen call d.circuit).1]
      (perform listen call d.circuit).2
  | .mk inner takes outcome, d => by
    simp only [steps, perform]
    cases admitted : (d.circuit.ask listen).1 with
    | false =>
      simp only [Bool.false_eq_true, if_false]
      refine ⟨rfl, rfl, ?_, ?_⟩ <;>
        simp [Desk.run, Desk.apply, admitted, CallReply.answersAll, CallReply.answers]
    | true =>
      simp only [if_true]
      have inside := performAll_gives inner (d.apply listen .begin)
      rw [Desk.run_ended d _ _ takes d.begun outcome rfl]
      exact inside.ended admitted takes outcome

theorem performAll_gives : ∀ (calls : List Call) (d : Desk),
    Gives d (d.run listen (stepsAll listen calls d)) (performAll listen calls d.circuit).1
      (performAll listen calls d.circuit).2
  | [], d => ⟨rfl, rfl, rfl, rfl⟩
  | call :: calls, d => by
    have first := perform_gives call d
    have others := performAll_gives calls (d.run listen (steps listen call d))
    rw [first.circuit] at others
    simp only [stepsAll, performAll]
    rw [Desk.run_append]
    exact first.cons others

end

mutual

theorem perform_moments : ∀ (call : Call) (d : Desk),
    d.moments listen (steps listen call d) = performMoments listen call d.circuit
  | .mk inner takes outcome, d => by
    simp only [steps, performMoments]
    cases admitted : (d.circuit.ask listen).1 with
    | false =>
      simp only [Bool.false_eq_true, if_false]
      rfl
    | true =>
      simp only [if_true]
      have inside : Gives (d.apply listen .begin)
          ((d.apply listen .begin).run listen (stepsAll listen inner (d.apply listen .begin))) _ _ :=
        performAll_gives inner _
      have ended := inside.ended admitted takes outcome
      rw [Desk.moments, Desk.moments_append, performAll_moments inner (d.apply listen .begin)]
      simp only [Desk.moments, ended.circuit]
      have worked : ((d.apply listen .begin).run listen
          (stepsAll listen inner (d.apply listen .begin))).circuit = _ := inside.circuit
      simp only [Desk.apply] at worked ⊢
      rw [worked]

theorem performAll_moments : ∀ (calls : List Call) (d : Desk),
    d.moments listen (stepsAll listen calls d) = performAllMoments listen calls d.circuit
  | [], d => rfl
  | call :: calls, d => by
    simp only [stepsAll, performAllMoments]
    rw [Desk.moments_append, perform_moments call d, performAll_moments calls,
      (perform_gives call d).circuit]

end

/-! ## What a call returns -/

/-- What an operation has ended with, untouched. -/
inductive Own : Outcome Nat → CallResult → Prop
  | value (n) : Own (.value n) (.value n)
  | failed (f) : Own (.failure f) (.failed f)
  | panicked (message) : Own (.panic message) .panicked

theorem own_resultOf (outcome : Outcome Nat) : Own outcome (resultOf outcome) := by
  cases outcome with
  | value n => exact .value n
  | failure f => exact .failed f
  | panic message => exact .panicked message

mutual

/-- A reply to a call: if it is rejected its operation does not run and makes no calls; else it
returns what its operation has ended with, whatever the calls in it came to. -/
inductive Fits : Call → CallReply → Prop
  | rejected (inner takes outcome) : Fits (.mk inner takes outcome) (.mk .rejected [])
  | admitted (inner takes outcome result replies) : Own outcome result → FitsAll inner replies →
      Fits (.mk inner takes outcome) (.mk result replies)

/-- Each of these calls is answered as its operation ended. -/
inductive FitsAll : List Call → List CallReply → Prop
  | nil : FitsAll [] []
  | cons (call calls reply replies) : Fits call reply → FitsAll calls replies →
      FitsAll (call :: calls) (reply :: replies)

end

mutual

theorem perform_fits : ∀ (call : Call) (c : Circuit), Fits call (perform listen call c).1
  | .mk inner takes outcome, c => by
    simp only [perform]
    cases (c.ask listen).1 with
    | false => exact .rejected inner takes outcome
    | true => exact .admitted inner takes outcome _ _ (own_resultOf outcome) (performAll_fits inner _)

theorem performAll_fits : ∀ (calls : List Call) (c : Circuit), FitsAll calls (performAll listen calls c).1
  | [], _ => .nil
  | call :: calls, c => .cons call calls _ _ (perform_fits call c) (performAll_fits calls _)

end

end Circuit

end CallGuard
