/-
Waiting for the end of a scope, and running work against it. Both come to an end at the first
instant at which the scope has ended, with the reason that the scope gives then. Work that is
run until then goes on as it would by itself, and its end counts if the scope has not ended
before the step in which it comes. Runs may stand inside one another, each with a scope of its
own: the first scope to end decides, and of those that end together the outermost.
-/
import CallGuard.Proofs.Scope.Alone
import CallGuard.Race

namespace CallGuard

variable {S ι σ α : Type}

/-! ## Runs inside one another -/

/-- How runs inside one another end: one of them is lost to its scope, the outermost being that
at level zero, or the work within them ends. -/
inductive Ran (α : Type) where
  | lost (level : Nat) (reason : ScopeEnd)
  | finished (outcome : Outcome α)
  deriving DecidableEq, Repr

/-- What the end of a race says of the run that it is and those inside. -/
def Verdict.ran : Verdict (Ran α) → Outcome (Ran α)
  | .scopeEnded reason => .value (.lost 0 reason)
  | .completed (.value (.lost level reason)) => .value (.lost (level + 1) reason)
  | .completed outcome => outcome

namespace Operation

/-- Waits for the end of the scope that it is given. -/
def awaiting : Operation S ι (Scope × Activity α) α :=
  .scripted (fun _ _ => .awaitScopeEnd) (fun _ _ s => s) (fun _ s => s)

theorem start_awaiting (request : ι) (n : Nat) (x : Scope) (now : Nat) (w : Setting S) :
    (awaiting (α := α)).start request n x now w =
      match x.ended? w.signals now with
      | some reason => (w, .finished (.failure (.scope reason)))
      | none => (w, .waiting (x, .awaitingScopeEnd)) := by
  simp only [awaiting, scripted, Behaviour.run]
  cases x.ended? w.signals now <;> rfl

theorem resume_awaiting (x : Scope) (now : Nat) (w : Setting S) :
    (awaiting (ι := ι) (α := α)).resume now (x, .awaitingScopeEnd) w =
      (x.ended? w.signals now).map fun reason => (w, .finished (.failure (.scope reason))) := by
  simp only [awaiting, scripted, Activity.resume, Option.map_map]
  rfl

theorem dues_awaiting (x : Scope) :
    (awaiting (S := S) (ι := ι) (α := α)).dues (x, .awaitingScopeEnd) = x.deadline.toList := rfl

/-- Work inside runs, each of them raced against the end of a scope, the outermost first. The
work is given the innermost scope. -/
def nest (op : Operation S ι σ α) : List Scope → Operation S ι σ (Ran α)
  | [] =>
    { start := fun request n scope now w =>
        (op.start request n scope now w).map id (.map id fun outcome => .value (.finished outcome))
      resume := fun now s w =>
        (op.resume now s w).map (Prod.map id (.map id fun outcome => .value (.finished outcome)))
      drop := op.drop
      dues := op.dues }
  | x :: xs =>
    { start := fun request n _ now w =>
        (Race.start (op.nest xs) request n x now w).map id (.map id Verdict.ran)
      resume := fun now s w =>
        (Race.resume (op.nest xs) x now s w).map (Prod.map id (.map id Verdict.ran))
      drop := (op.nest xs).drop
      dues := Race.dues (op.nest xs) x }

variable {op : Operation S ι σ α} {xs : List Scope} {now : Nat} {w : Setting S} {k : Nat} {reason : ScopeEnd}

theorem drop_nest (op : Operation S ι σ α) (xs : List Scope) : (op.nest xs).drop = op.drop := by
  induction xs with
  | nil => rfl
  | cons x xs ih => exact ih

theorem deadline_mem_dues_nest (op : Operation S ι σ α) {x : Scope} (hx : x ∈ xs) {d : Nat}
    (hd : x.deadline = some d) (s : σ) : d ∈ (op.nest xs).dues s := by
  induction xs with
  | nil => cases hx
  | cons y xs ih =>
    show d ∈ y.deadline.toList ++ (op.nest xs).dues s
    rcases List.mem_cons.1 hx with rfl | hx
    · rw [hd]
      exact List.mem_append_left _ List.mem_cons_self
    · exact List.mem_append_right _ (ih hx)

/-- Runs are lost to the first of their scopes that has ended. Nothing is started then. -/
theorem start_nest_of_ended (op : Operation S ι σ α) (request : ι) (n : Nat) (scope : Scope)
    (ended : Scope.firstEnded? w.signals now xs = some (k, reason)) :
    (op.nest xs).start request n scope now w = (w, .finished (.value (.lost k reason))) := by
  induction xs generalizing k scope with
  | nil => cases ended
  | cons x xs ih =>
    show (Race.start (op.nest xs) request n x now w).map id (Progress.map id Verdict.ran) = _
    rw [Scope.firstEnded?] at ended
    unfold Race.start
    cases hx : x.ended? w.signals now with
    | some reason' =>
      rw [hx] at ended
      cases ended
      rfl
    | none =>
      rw [hx] at ended
      obtain ⟨⟨level, reason'⟩, inner, same⟩ := Option.map_eq_some_iff.1 ended
      cases same
      simp only [ih x inner]
      rfl

theorem resume_nest_of_ended (op : Operation S ι σ α) (s : σ)
    (ended : Scope.firstEnded? w.signals now xs = some (k, reason)) :
    (op.nest xs).resume now s w = some (op.drop s w, .finished (.value (.lost k reason))) := by
  induction xs generalizing k with
  | nil => cases ended
  | cons x xs ih =>
    show (Race.resume (op.nest xs) x now s w).map (Prod.map id (Progress.map id Verdict.ran)) = _
    rw [Scope.firstEnded?] at ended
    unfold Race.resume
    cases hx : x.ended? w.signals now with
    | some reason' =>
      rw [hx] at ended
      cases ended
      simp only [drop_nest]
      rfl
    | none =>
      rw [hx] at ended
      obtain ⟨⟨level, reason'⟩, inner, same⟩ := Option.map_eq_some_iff.1 ended
      cases same
      simp only [ih inner]
      rfl

theorem start_nest_of_lasting (op : Operation S ι σ α) (request : ι) (n : Nat) (scope : Scope)
    (lasts : ∀ x ∈ xs, x.ended? w.signals now = none) :
    (op.nest xs).start request n scope now w =
      (op.start request n (xs.getLastD scope) now w).map id (.map id fun outcome => .value (.finished outcome)) := by
  induction xs generalizing scope with
  | nil => rfl
  | cons x xs ih =>
    obtain ⟨hx, rest⟩ := List.forall_mem_cons.1 lasts
    show (Race.start (op.nest xs) request n x now w).map id (Progress.map id Verdict.ran) = _
    rw [List.getLastD_cons]
    simp only [Race.start, hx, ih x rest]
    obtain ⟨w', p⟩ := op.start request n (xs.getLastD x) now w
    cases p <;> rfl

theorem resume_nest_of_lasting (op : Operation S ι σ α) (s : σ)
    (lasts : ∀ x ∈ xs, x.ended? w.signals now = none) : (op.nest xs).resume now s w =
      (op.resume now s w).map (Prod.map id (.map id fun outcome => .value (.finished outcome))) := by
  induction xs with
  | nil => rfl
  | cons x xs ih =>
    obtain ⟨hx, rest⟩ := List.forall_mem_cons.1 lasts
    show (Race.resume (op.nest xs) x now s w).map (Prod.map id (Progress.map id Verdict.ran)) = _
    simp only [Race.resume, hx, ih rest, Option.map_map]
    congr 1
    funext r
    obtain ⟨w', p⟩ := r
    cases p <;> rfl

theorem nest_keepsCancelled (keeps : op.KeepsCancelled) (xs : List Scope) : (op.nest xs).KeepsCancelled where
  start request n scope now w t raised := by
    cases first : Scope.firstEnded? w.signals now xs with
    | some found =>
      rw [start_nest_of_ended op request n scope first]
      exact raised
    | none =>
      rw [start_nest_of_lasting op request n scope (Scope.firstEnded?_eq_none_iff.1 first)]
      exact keeps.start request n (xs.getLastD scope) now w t raised
  resume now s w w' p t hr raised := by
    cases first : Scope.firstEnded? w.signals now xs with
    | some found =>
      rw [resume_nest_of_ended op s first] at hr
      cases hr
      exact keeps.drop s w t raised
    | none =>
      rw [resume_nest_of_lasting op s (Scope.firstEnded?_eq_none_iff.1 first)] at hr
      obtain ⟨⟨v, q⟩, resumed, same⟩ := Option.map_eq_some_iff.1 hr
      cases same
      exact keeps.resume now s w v q t resumed raised
  drop s w t raised := by
    rw [drop_nest]
    exact keeps.drop s w t raised

end Operation

namespace Solo

variable {op : Operation S ι σ α} {call : Call ι} {xs : List Scope} {start : Nat} {setting : Setting S}
  {events : List (Event S)}

theorem heeds_nest (op : Operation S ι σ α) (call : Call ι) (xs : List Scope) :
    Heeds (op.nest xs) call xs fun k reason => .value (.lost k reason) where
  start ended := Operation.start_nest_of_ended op call.request call.attempt call.scope ended
  resume _ ended := by
    rw [Operation.resume_nest_of_ended op _ ended, Operation.drop_nest]
  due _ hx hd := Operation.deadline_mem_dues_nest op hx hd _

theorem eq_of_reaches_awaiting {scope : Scope} {s : Scope × Activity α}
    (h : (Operation.awaiting (S := S) (ι := ι)).Reaches scope s) : s = (scope, .awaitingScopeEnd) := by
  induction h with
  | start hs =>
    rw [Operation.start_awaiting] at hs
    split at hs <;> cases hs
    rfl
  | resume _ hr ih =>
    rw [ih, Operation.resume_awaiting] at hr
    obtain ⟨reason, -, same⟩ := Option.map_eq_some_iff.1 hr
    cases same

theorem firstEnded?_singleton {x : Scope} {s : Signals} {now k : Nat} {reason : ScopeEnd} :
    Scope.firstEnded? s now [x] = some (k, reason) ↔ k = 0 ∧ x.ended? s now = some reason := by
  unfold Scope.firstEnded?
  cases x.ended? s now with
  | none => simp only [Scope.firstEnded?, Option.map_none, reduceCtorEq, and_false]
  | some reason' =>
    simp only [Option.some.injEq, Prod.mk.injEq]
    rw [eq_comm]

theorem heeds_awaiting (call : Call ι) :
    Heeds (Operation.awaiting (S := S) (α := α)) call [call.scope] fun _ reason => .failure (.scope reason) where
  start ended := by
    rw [Operation.start_awaiting, (firstEnded?_singleton.1 ended).2]
  resume reached ended := by
    rw [eq_of_reaches_awaiting reached, Operation.resume_awaiting, (firstEnded?_singleton.1 ended).2]
    rfl
  due reached hx hd := by
    rw [List.mem_singleton.1 hx] at hd
    rw [eq_of_reaches_awaiting reached, Operation.dues_awaiting, hd]
    exact List.mem_cons_self

/-! ## The law of waiting -/

/-- What holds of a call that waits for the end of a scope, from an instant on. -/
structure Awaited (call : Call ι) (start : Nat) (events : List (Event S))
    (run : List (Event S) → Solo S (Scope × Activity α) α) : Prop where
  /-- Once the scope has ended, the next step returns the reason, and no time passes before. -/
  atOnce : ∀ before after reason, events = before ++ after → (run before).phase.outcome? = none →
    call.scope.ended? (run before).setting.signals (run before).now = some reason →
    (run (before ++ [.step])).phase = .returned (.failure (.scope reason)) ∧
      ∀ d, ¬(run before).MayPass .awaiting call d
  /-- It can always go on to the end of a scope that has a deadline. -/
  returns : ∀ d, call.scope.deadline = some d →
    ∃ more, (run events).Prompt .awaiting call more ∧ (run (events ++ more)).phase.outcome?.isSome = true
  /-- It does not outlast the deadline. -/
  onTime : (run events).phase.outcome? = none → ∀ d, call.scope.deadline = some d →
    (run events).now < d ∨ (run events).now = if d ≤ start then start else Instant.tick d
  /-- When it returns, the scope has ended for that reason, and this is the first instant at
  which it has. -/
  returned : ∀ outcome, (run events).phase = .returned outcome →
    ∃ before after reason, events = before ++ .step :: after ∧ outcome = .failure (.scope reason) ∧
      EndsFirst run [call.scope] start before 0 reason

/-! ## The law of runs -/

/-- Two calls that have come as far as each other, and go on in the same setting. -/
inductive Together {β : Type} : Solo S σ β → Solo S σ α → Prop
  | ready {now setting} : Together ⟨now, setting, .ready⟩ ⟨now, setting, .ready⟩
  | going {now setting s} : Together ⟨now, setting, .going s⟩ ⟨now, setting, .going s⟩

/-- How runs that have not ended before their last step return in it, beside the same work by
itself. -/
inductive Returned (op : Operation S ι σ α) (xs : List Scope) (start : Nat)
    (run : List (Event S) → Solo S σ (Ran α)) (alone : List (Event S) → Solo S σ α)
    (events : List (Event S)) : Ran α → Prop
  /-- A scope ends: the work is not started any more, or dropped where it is. -/
  | lost {level reason} : EndsFirst run xs start events level reason →
      (run (events ++ [.step])).setting = (run events).abandoned op →
      Returned op xs start run alone events (.lost level reason)
  /-- The work ends, and no scope had ended before this step. -/
  | finished {outcome} : (∀ x ∈ xs, x.ended? (run events).setting.signals (run events).now = none) →
      (alone (events ++ [.step])).phase = .returned outcome →
      (run (events ++ [.step])).setting = (alone (events ++ [.step])).setting →
      Returned op xs start run alone events (.finished outcome)

/-- What holds of runs inside one another, from an instant on, beside the same work by itself. -/
structure Raced (op : Operation S ι σ α) (call : Call ι) (xs : List Scope) (start : Nat)
    (events : List (Event S)) (run : List (Event S) → Solo S σ (Ran α))
    (alone : List (Event S) → Solo S σ α) : Prop where
  /-- Until they return, the work goes on as it would by itself. -/
  together : (run events).phase.outcome? = none → Together (run events) (alone events)
  /-- Once a scope has ended, the next step returns the reason, and no time passes before. -/
  atOnce : ∀ before after level reason, events = before ++ after → (run before).phase.outcome? = none →
    Scope.firstEnded? (run before).setting.signals (run before).now xs = some (level, reason) →
    run (before ++ [.step]) =
        ⟨(run before).now, (run before).abandoned op, .returned (.value (.lost level reason))⟩ ∧
      ∀ d, ¬(run before).MayPass (op.nest xs) call d
  /-- They do not outlast a deadline. -/
  onTime : (run events).phase.outcome? = none → ∀ x ∈ xs, ∀ d, x.deadline = some d →
    (run events).now < d ∨ (run events).now = if d ≤ start then start else Instant.tick d
  returned : ∀ outcome, (run events).phase = .returned outcome →
    ∃ before after result, events = before ++ .step :: after ∧ outcome = .value result ∧
      (run before).phase.outcome? = none ∧ Returned op xs start run alone before result

/-- The work inside runs: it is given the innermost scope. -/
def Call.inside (call : Call ι) (xs : List Scope) : Call ι := { call with scope := xs.getLastD call.scope }

theorem Together.unreturned {w : Solo S σ (Ran α)} {v : Solo S σ α} (h : Together w v) :
    w.phase.outcome? = none := by
  cases h <;> rfl

/-- As long as no scope has ended, a step of the runs is a step of the work. -/
theorem Together.step (op : Operation S ι σ α) (call : Call ι) {w : Solo S σ (Ran α)} {v : Solo S σ α}
    (h : Together w v) (lasts : ∀ x ∈ xs, x.ended? w.setting.signals w.now = none) :
    Together (w.apply (op.nest xs) call .step) (v.apply op (call.inside xs) .step) ∨
      ∃ outcome, (w.apply (op.nest xs) call .step).phase = .returned (.value (.finished outcome)) ∧
        (v.apply op (call.inside xs) .step).phase = .returned outcome ∧
        (w.apply (op.nest xs) call .step).setting = (v.apply op (call.inside xs) .step).setting := by
  cases h with
  | @ready now setting =>
    have started := Operation.start_nest_of_lasting op call.request call.attempt call.scope lasts
    simp only [apply, step?, started, Option.getD_some]
    cases hs : op.start call.request call.attempt (xs.getLastD call.scope) now setting with
    | mk setting' p =>
      cases p with
      | waiting s =>
        simp only [Call.inside, hs]
        exact .inl .going
      | finished outcome =>
        simp only [Call.inside, hs]
        exact .inr ⟨outcome, rfl, rfl, rfl⟩
  | @going now setting s =>
    simp only [apply, step?, Operation.resume_nest_of_lasting op _ lasts]
    cases op.resume now s setting with
    | none => exact .inl .going
    | some r =>
      obtain ⟨setting', p⟩ := r
      cases p with
      | waiting s => exact .inl .going
      | finished outcome => exact .inr ⟨outcome, rfl, rfl, rfl⟩

/-- Runs that have not returned have come as far as the work by itself. -/
theorem together_play (op : Operation S ι σ α) (call : Call ι) (xs : List Scope) (start : Nat)
    (setting : Setting S) (events : List (Event S))
    (open_ : (play (op.nest xs) call start setting events).phase.outcome? = none) :
    Together (play (op.nest xs) call start setting events)
      (play op (call.inside xs) start setting events) := by
  induction events using List.reverseRecOn with
  | nil => exact .ready
  | append_singleton events e ih =>
    rw [play_concat] at open_
    have still := open_of_apply open_
    have before := ih still
    rw [play_concat, play_concat]
    cases e with
    | step =>
      cases ended : Scope.firstEnded? (play (op.nest xs) call start setting events).setting.signals
          (play (op.nest xs) call start setting events).now xs with
      | some first =>
        rw [← play_concat, (lost_play (heeds_nest op call xs) still ended).1] at open_
        cases open_
      | none =>
        rcases before.step op call (Scope.firstEnded?_eq_none_iff.1 ended) with
          together | ⟨outcome, back, -⟩
        · exact together
        · rw [back] at open_
          cases open_
    | pass d =>
      generalize play (op.nest xs) call start setting events = w at before
      generalize play op (call.inside xs) start setting events = v at before
      cases before with
      | ready => exact .ready
      | going => exact .going
    | around setting' =>
      generalize play (op.nest xs) call start setting events = w at before
      generalize play op (call.inside xs) start setting events = v at before
      cases before with
      | ready => exact .ready
      | going => exact .going

theorem apply_awaiting {call : Call ι} {w : Solo S (Scope × Activity α) α} (open_ : w.phase.outcome? = none)
    (reached : ∀ s, w.phase = .going s → Operation.awaiting.Reaches (S := S) (ι := ι) call.scope s)
    (lasts : call.scope.ended? w.setting.signals w.now = none) :
    w.apply .awaiting call .step = { w with phase := .going (call.scope, .awaitingScopeEnd) } := by
  obtain ⟨now, setting, phase⟩ := w
  simp only [apply, step?]
  cases phase with
  | ready =>
    simp only [Operation.start_awaiting, lasts]
    rfl
  | going s =>
    obtain rfl := eq_of_reaches_awaiting (reached s rfl)
    simp only [Operation.resume_awaiting, lasts]
    rfl
  | returned outcome => cases open_

/-- A wait for a scope with a deadline can always go on to its end. -/
theorem exists_returned (call : Call ι) {start : Nat} {setting : Setting S} {events : List (Event S)}
    (prompt : (initial start setting).Prompt (.awaiting (α := α)) call events) {d : Nat}
    (hd : call.scope.deadline = some d) :
    ∃ more, (play (.awaiting (α := α)) call start setting events).Prompt .awaiting call more ∧
      (play (.awaiting (α := α)) call start setting (events ++ more)).phase.outcome?.isSome = true := by
  suffices ∃ more, (initial start setting).Prompt (.awaiting (α := α)) call (events ++ more) ∧
      (play (.awaiting (α := α)) call start setting (events ++ more)).phase.outcome?.isSome = true by
    obtain ⟨more, whole, back⟩ := this
    exact ⟨more, (prompt_append.1 whole).2, back⟩
  have heeds := heeds_awaiting (S := S) (α := α) call
  have step {before : List (Event S)} (prior : (initial start setting).Prompt (.awaiting (α := α)) call before) :
      (initial start setting).Prompt (.awaiting (α := α)) call (before ++ [.step]) :=
    prompt_concat.2 ⟨prior, trivial⟩
  cases open_ : (play (.awaiting (α := α)) call start setting events).phase.outcome? with
  | some outcome =>
    refine ⟨[], by rw [List.append_nil]; exact prompt, ?_⟩
    rw [List.append_nil, open_]
    rfl
  | none =>
    cases ended : call.scope.ended? (play (.awaiting (α := α)) call start setting events).setting.signals
        (play (.awaiting (α := α)) call start setting events).now with
    | some reason =>
      refine ⟨[.step], step prompt, ?_⟩
      rw [(lost_play heeds open_ (firstEnded?_singleton.2 ⟨rfl, ended⟩)).1]
      rfl
    | none =>
      -- It waits, the clock moves on to the millisecond of the timer, and it returns.
      have ahead := Scope.lt_of_ended?_eq_none ended hd
      have waits := apply_awaiting open_ (fun _ => reaches_play .awaiting call start setting events) ended
      rw [← play_concat] at waits
      have le := Nat.le_trans (Nat.le_of_lt ahead) (Instant.le_tick d)
      generalize hs : Instant.tick d - (play (.awaiting (α := α)) call start setting events).now = span
      have may : (play (.awaiting (α := α)) call start setting (events ++ [.step])).MayPass .awaiting call span := by
        rw [waits]
        refine ⟨?_, fun due hdue _ => .inr ?_⟩
        · simp only [step?, Operation.resume_awaiting, ended, Option.map_none]
        · simp only [dues, Operation.dues_awaiting, hd, Option.toList_some, List.mem_singleton] at hdue
          rw [hdue]
          dsimp only
          omega
      have prior := prompt_concat (e := .pass span).2 ⟨step prompt, may⟩
      have still : (play (.awaiting (α := α)) call start setting (events ++ [.step] ++ [.pass span])).phase.outcome? =
          none := by
        rw [play_concat, waits]
        rfl
      have there : d ≤ (play (.awaiting (α := α)) call start setting (events ++ [.step] ++ [.pass span])).now := by
        have tick := Instant.le_tick d
        rw [play_concat, waits]
        simp only [apply]
        omega
      cases expired : call.scope.ended?
          (play (.awaiting (α := α)) call start setting (events ++ [.step] ++ [.pass span])).setting.signals
          (play (.awaiting (α := α)) call start setting (events ++ [.step] ++ [.pass span])).now with
      | none => exact absurd there (Nat.not_le_of_lt (Scope.lt_of_ended?_eq_none expired hd))
      | some reason =>
        refine ⟨[.step] ++ [.pass span] ++ [.step], ?_, ?_⟩
        · rw [← List.append_assoc, ← List.append_assoc]
          exact step prior
        · rw [← List.append_assoc, ← List.append_assoc,
            (lost_play heeds still (firstEnded?_singleton.2 ⟨rfl, expired⟩)).1]
          rfl

theorem awaited_play (call : Call ι) (start : Nat) (setting : Setting S) (events : List (Event S))
    (prompt : (initial start setting).Prompt (.awaiting (α := α)) call events) :
    Awaited call start events (play (.awaiting (α := α)) call start setting) := by
  have heeds := heeds_awaiting (S := S) (α := α) call
  have keeps : (Operation.awaiting (S := S) (ι := ι) (α := α)).KeepsCancelled :=
    Operation.scripted_keepsCancelled _ _ _
  refine ⟨fun before after reason he open_ ended => ?_, fun d hd => exists_returned call prompt hd,
    fun open_ d hd => ?_, fun outcome back => ?_⟩
  · obtain ⟨returned, waitless⟩ := lost_play heeds open_ (firstEnded?_singleton.2 ⟨rfl, ended⟩)
    exact ⟨congrArg (·.phase) returned, waitless⟩
  · exact onTime_play heeds keeps prompt open_ List.mem_cons_self hd
  · obtain ⟨before, after, rfl, open_, back⟩ := exists_return back
    have prior := (prompt_append.1 prompt).1
    cases ended : call.scope.ended? (play (.awaiting (α := α)) call start setting before).setting.signals
        (play (.awaiting (α := α)) call start setting before).now with
    | some reason =>
      have first := firstEnded?_singleton.2 ⟨rfl, ended⟩
      rw [(lost_play heeds open_ first).1] at back
      cases back
      exact ⟨before, after, reason, rfl, rfl, endsFirst_play heeds keeps prior open_ first⟩
    | none =>
      have waits := apply_awaiting open_ (fun _ => reaches_play .awaiting call start setting before) ended
      rw [← play_concat] at waits
      rw [waits] at back
      cases back

theorem raced_play (op : Operation S ι σ α) (keeps : op.KeepsCancelled) (call : Call ι) (xs : List Scope)
    (start : Nat) (setting : Setting S) (events : List (Event S))
    (prompt : (initial start setting).Prompt (op.nest xs) call events) :
    Raced op call xs start events (play (op.nest xs) call start setting)
      (play op (call.inside xs) start setting) := by
  have heeds := heeds_nest op call xs
  have keeps := Operation.nest_keepsCancelled keeps xs
  have lost {before : List (Event S)} {level : Nat} {reason : ScopeEnd}
      (open_ : (play (op.nest xs) call start setting before).phase.outcome? = none)
      (ended : Scope.firstEnded? (play (op.nest xs) call start setting before).setting.signals
        (play (op.nest xs) call start setting before).now xs = some (level, reason)) :
      play (op.nest xs) call start setting (before ++ [.step]) =
          ⟨(play (op.nest xs) call start setting before).now,
            (play (op.nest xs) call start setting before).abandoned op, .returned (.value (.lost level reason))⟩ ∧
        ∀ d, ¬(play (op.nest xs) call start setting before).MayPass (op.nest xs) call d := by
    obtain ⟨returned, waitless⟩ := lost_play heeds open_ ended
    refine ⟨?_, waitless⟩
    rw [returned]
    simp only [abandoned, Operation.drop_nest]
  refine ⟨together_play op call xs start setting events, fun _ _ _ _ _ => lost,
    fun open_ x hx d hd => onTime_play heeds keeps prompt open_ hx hd, fun outcome back => ?_⟩
  obtain ⟨before, after, rfl, open_, back⟩ := exists_return back
  have prior := (prompt_append.1 prompt).1
  cases ended : Scope.firstEnded? (play (op.nest xs) call start setting before).setting.signals
      (play (op.nest xs) call start setting before).now xs with
  | some first =>
    have returned := (lost open_ ended).1
    have ends := endsFirst_play heeds keeps prior open_ ended
    rw [returned] at back
    cases back
    exact ⟨before, after, _, rfl, rfl, open_, .lost ends (congrArg (·.setting) returned)⟩
  | none =>
    have lasts := Scope.firstEnded?_eq_none_iff.1 ended
    have together := together_play op call xs start setting before open_
    rcases together.step op call lasts with still | ⟨outcome', back', alone, same⟩
    · have open_ := still.unreturned
      rw [← play_concat, back] at open_
      cases open_
    · rw [play_concat, back'] at back
      cases back
      rw [← play_concat] at alone same
      rw [← play_concat] at same
      exact ⟨before, after, _, rfl, rfl, open_, .finished lasts alone same⟩

/-- **Waiting for the end of a scope, and running work against the ends of scopes.** -/
theorem waits_and_runs (op : Operation S ι σ α) (call : Call ι) (xs : List Scope) (start : Nat)
    (setting : Setting S) (events : List (Event S)) :
    ((initial start setting).Prompt (.awaiting (α := α)) call events →
        Awaited call start events (play (.awaiting (α := α)) call start setting)) ∧
      (op.KeepsCancelled → (initial start setting).Prompt (op.nest xs) call events →
        Raced op call xs start events (play (op.nest xs) call start setting)
          (play op (call.inside xs) start setting)) :=
  ⟨awaited_play call start setting events,
    fun keeps => raced_play op keeps call xs start setting events⟩

/-- Work that hangs, in two runs whose scopes end in the same millisecond, the inner one first by
its deadline. The outer one decides. -/
theorem two_runs_end_together :
    let outer : Scope := ⟨⟨0, []⟩, some 5500000⟩
    let inner : Scope := ⟨⟨1, [0]⟩, some 5200000⟩
    let op : Operation Unit Unit (Scope × Activity Nat) Nat :=
      .scripted (fun _ _ => .hang) (fun _ _ s => s) (fun _ s => s)
    let call : Call Unit := ⟨(), 1, outer⟩
    let setting : Setting Unit := ⟨⟨2, []⟩, [], ()⟩
    let events : List (Event Unit) := [.step, .pass 6000000, .step]
    let wait := play (.awaiting (α := Nat)) call 0 setting
    let run := play (op.nest [outer, inner]) call 0 setting
    Awaited call 0 events wait ∧ (wait events).phase.outcome? = some (.failure (.scope .deadlineExceeded)) ∧
      Raced op call [outer, inner] 0 events run (play op (call.inside [outer, inner]) 0 setting) ∧
      (run events).phase.outcome? = some (.value (.lost 0 .deadlineExceeded)) ∧ (run events).now = 6000000 := by
  intro outer inner op call setting events wait run
  have keeps : op.KeepsCancelled := Operation.scripted_keepsCancelled _ _ _
  have waits : (initial 0 setting).Prompt (.awaiting (α := Nat)) call events :=
    ⟨trivial, ⟨rfl, by decide +kernel⟩, trivial, trivial⟩
  have runs : (initial 0 setting).Prompt (op.nest [outer, inner]) call events :=
    ⟨trivial, ⟨rfl, by decide +kernel⟩, trivial, trivial⟩
  exact ⟨(waits_and_runs op call [outer, inner] 0 setting events).1 waits, by decide +kernel,
    (waits_and_runs op call [outer, inner] 0 setting events).2 keeps runs, by decide +kernel,
    by decide +kernel⟩

end Solo

end CallGuard
