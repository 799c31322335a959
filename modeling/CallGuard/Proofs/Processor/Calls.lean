/-
Which calls of its operation a processor makes. The operation is given a pen: it
notes when a call of it begins and when one ends, and otherwise does what it did.
A processor that works with it does what it did, too (`workerStep_noted`), so what
it does to its operation can be read off the notes, step by step (`Moved`).
-/
import CallGuard.Proofs.Processor.Steps
import CallGuard.Proofs.Retry.Steps

namespace CallGuard

variable {S N ι σ α β : Type}

/-- What an operation notes of its calls. -/
inductive Note (ι α : Type) where
  | begun (request : ι)
  /-- A call has ended, with an outcome unless it was abandoned. -/
  | ended (outcome : Option (Outcome α))

/-- The end of a call, if it has come. -/
def Note.ofProgress : Progress σ (Outcome α) → List (Note ι α)
  | .waiting _ => []
  | .finished outcome => [.ended (some outcome)]

namespace Setting

/-- The setting with something beside its site. -/
def beside (w : Setting S) (side : N) : Setting (S × N) := ⟨w.signals, w.journal, w.site, side⟩

/-- The setting without what is beside its site. -/
def alone (w : Setting (S × N)) : Setting S := ⟨w.signals, w.journal, w.site.1⟩

end Setting

namespace Operation

/-- The same operation, which notes its calls beside the site. -/
def noted (op : Operation S ι σ α) : Operation (S × List (Note ι α)) ι σ α where
  start request n scope now w :=
    let (inner, p) := op.start request n scope now w.alone
    (inner.beside (w.site.2 ++ .begun request :: Note.ofProgress p), p)
  resume now s w :=
    (op.resume now s w.alone).map fun (inner, p) =>
      (inner.beside (w.site.2 ++ Note.ofProgress p), p)
  drop s w := (op.drop s w.alone).beside (w.site.2 ++ [.ended none])
  dues := op.dues

theorem caught_beside (w : Setting S) (side : N) (p : Progress σ (Outcome α)) :
    catching.caught (w.beside side, p) =
      ((catching.caught (w, p)).1.beside side, (catching.caught (w, p)).2) := by
  cases p with
  | waiting s => rfl
  | finished outcome => cases outcome <;> rfl

end Operation

/-! ## Races -/

namespace Race

/-- What is noted when a race is started. -/
def startNotes (op : Operation S ι σ α) (request : ι) (n : Nat) (scope : Scope) (now : Nat)
    (w : Setting S) : List (Note ι α) :=
  match scope.ended? w.signals now with
  | some _ => []
  | none => .begun request :: Note.ofProgress (op.start request n scope now w).2

/-- What is noted when a race goes on. -/
def resumeNotes (op : Operation S ι σ α) (scope : Scope) (now : Nat) (s : σ) (w : Setting S) :
    List (Note ι α) :=
  match scope.ended? w.signals now with
  | some _ => [.ended none]
  | none => (op.resume now s w).elim [] fun r => Note.ofProgress r.2

variable (op : Operation S ι σ α) (scope : Scope) (now : Nat) (w : Setting S)
  (notes : List (Note ι α))

theorem start_noted (request : ι) (n : Nat) :
    start op.noted.catching request n scope now (w.beside notes) =
      ((start op.catching request n scope now w).1.beside
          (notes ++ startNotes op request n scope now w),
        (start op.catching request n scope now w).2) := by
  have hs : scope.ended? (w.beside notes).signals now = scope.ended? w.signals now := rfl
  unfold start startNotes
  rw [hs]
  cases scope.ended? w.signals now with
  | some reason => simp only [List.append_nil]
  | none =>
    have hc := Operation.caught_beside (op.start request n scope now w).1
      (notes ++ .begun request :: Note.ofProgress (op.start request n scope now w).2)
      (op.start request n scope now w).2
    exact congrArg (fun r => (r.1, r.2.map id Verdict.completed)) hc

theorem resume_noted (s : σ) :
    resume op.noted.catching scope now s (w.beside notes) =
      (resume op.catching scope now s w).map fun r =>
        (r.1.beside (notes ++ resumeNotes op scope now s w), r.2) := by
  have hs : scope.ended? (w.beside notes).signals now = scope.ended? w.signals now := rfl
  unfold resume resumeNotes
  rw [hs]
  cases scope.ended? w.signals now with
  | some reason => rfl
  | none =>
    cases hr : op.resume now s w with
    | none =>
      have hn : op.noted.resume now s (w.beside notes) = none := by
        show (op.resume now s w).map _ = none
        rw [hr]
        rfl
      simp only [Operation.catching, hr, hn, Option.map_none]
    | some r =>
      obtain ⟨w', p⟩ := r
      have hn : op.noted.resume now s (w.beside notes) =
          some (w'.beside (notes ++ Note.ofProgress p), p) := by
        show (op.resume now s w).map _ = _
        rw [hr]
        rfl
      simp only [Operation.catching, hr, hn, Option.map_some, Option.elim_some,
        Operation.caught_beside]

end Race

/-! ## The work on an item -/

namespace Retry.Run

theorem proceed_beside (job : Job ι) (now : Nat) (run : Run σ α) (w : Setting S) (side : N)
    (p : Progress σ (Verdict α)) :
    run.proceed job now (w.beside side, p) =
      ((run.proceed job now (w, p)).1, (run.proceed job now (w, p)).2.beside side) := by
  cases p with
  | waiting s => rfl
  | finished verdict =>
    cases verdict with
    | scopeEnded reason => rfl
    | completed outcome =>
      cases outcome with
      | value a => rfl
      | panic message => rfl
      | failure f =>
        simp only [proceed, settle]
        by_cases hf : isFinal job.patterns f = true
        · simp only [hf, if_true]
          rfl
        · simp only [hf, Bool.false_eq_true, if_false]

/-- What is noted in a step of a run. -/
def notes (op : Operation S ι σ α) (job : Job ι) (now : Nat) (run : Run σ α) (w : Setting S) :
    List (Note ι α) :=
  match run.phase with
  | .ready => Race.startNotes op job.request (run.attempt + 1) job.scope now w
  | .trying s => Race.resumeNotes op job.scope now s w
  | .pausing _ _ | .ended _ => []

theorem step_noted (op : Operation S ι σ α) (job : Job ι) (now : Nat) (run : Run σ α) (w : Setting S)
    (noted : List (Note ι α)) :
    run.step op.noted.catching job now (w.beside noted) =
      (run.step op.catching job now w).map fun r =>
        (r.1, r.2.beside (noted ++ run.notes op job now w)) := by
  unfold step notes
  cases run.phase with
  | ready =>
    simp only [Race.start_noted, proceed_beside, Option.map_some]
  | trying s =>
    simp only [Race.resume_noted, Option.map_map]
    congr 1
    funext r
    exact proceed_beside job now run r.1 _ r.2
  | pausing f due =>
    have hs : job.scope.ended? (w.beside noted).signals now = job.scope.ended? w.signals now := rfl
    simp only [List.append_nil, hs]
    cases job.scope.ended? w.signals now with
    | some reason => rfl
    | none =>
      dsimp only
      split
      · rfl
      · split <;> rfl
  | ended outcome => rfl

end Retry.Run

namespace Processor

namespace Effort

/-- What is noted in a step of the work on an item. -/
def notes (op : Operation S (Item ι) σ α) (config : Config) (order : Order ι) (now : Nat)
    (effort : Effort σ α) (w : Setting S) : List (Note (Item ι) α) :=
  match effort with
  | .ready => Race.startNotes op order.item 1 order.scope now w
  | .trying s => Race.resumeNotes op order.scope now s w
  | .tried _ => []
  | .retrying policy run => run.notes op (job config policy order) now w

theorem proceed_beside (w : Setting S) (side : N) (p : Progress σ (Verdict α)) :
    proceed (w.beside side, p) = ((proceed (w, p)).1, (proceed (w, p)).2.beside side) := by
  cases p <;> rfl

theorem step_noted (op : Operation S (Item ι) σ α) (config : Config) (order : Order ι) (now : Nat)
    (effort : Effort σ α) (w : Setting S) (noted : List (Note (Item ι) α)) :
    effort.step op.noted config order now (w.beside noted) =
      (effort.step op config order now w).map fun r =>
        (r.1, r.2.beside (noted ++ effort.notes op config order now w)) := by
  cases effort with
  | ready => simp only [step, notes, Race.start_noted, proceed_beside, Option.map_some]
  | trying s =>
    simp only [step, notes, Race.resume_noted, Option.map_map]
    congr 1
    funext r
    exact proceed_beside r.1 _ r.2
  | tried outcome => rfl
  | retrying policy run =>
    simp only [step, notes, Retry.Run.step_noted, Option.map_map]
    rfl

end Effort

/-! ## The worker -/

theorem take_beside (p : Processor ι σ α) (drained : Option Nat) (now : Nat) (w : Setting S) (side : N) :
    p.take drained now (w.beside side) =
      (p.take drained now w).map fun r => (r.1, r.2.beside side) := by
  unfold take
  cases p.input <;> rfl

theorem wake_beside (p : Processor ι σ α) (drained : Option Nat) (now : Nat) (w : Setting S) (side : N) :
    p.wake drained now (w.beside side) =
      (p.wake drained now w).map fun r => (r.1, r.2.beside side) := by
  cases drained with
  | none =>
    simp only [wake, take_beside]
    split <;> rfl
  | some n =>
    simp only [wake, take_beside]
    cases p.take (some (n + 1)) now w <;> rfl

theorem deliver_beside (p : Processor ι σ α) (drained : Option Nat) (result : Result α) (w : Setting S)
    (side : N) : p.deliver drained result (w.beside side) =
      (p.deliver drained result w).map fun r => (r.1, r.2.beside side) := by
  unfold deliver
  split
  · rfl
  · split <;> rfl

/-- What is noted in a step of the worker. -/
def workNotes (op : Operation S (Item ι) σ α) (now : Nat) (p : Processor ι σ α) (w : Setting S) :
    List (Note (Item ι) α) :=
  match p.worker with
  | some ⟨.working order effort, _⟩ =>
    if effort.outcome?.isSome then [] else effort.notes op p.config order now w
  | _ => []

theorem work_noted (op : Operation S (Item ι) σ α) (p : Processor ι σ α) (drained : Option Nat)
    (order : Order ι) (effort : Effort σ α) (now : Nat) (w : Setting S)
    (noted : List (Note (Item ι) α)) :
    p.work op.noted drained order effort now (w.beside noted) =
      (p.work op drained order effort now w).map fun r =>
        (r.1, r.2.beside
          (noted ++ if effort.outcome?.isSome then [] else effort.notes op p.config order now w)) := by
  unfold work
  cases effort.outcome? with
  | some outcome =>
    simp only [Option.isSome_some, if_true, List.append_nil]
    rfl
  | none =>
    simp only [Option.isSome_none, Bool.false_eq_true, if_false, Effort.step_noted, Option.map_map]
    rfl

/-- **Noting changes nothing.** A worker whose operation notes its calls makes the
same steps as one whose operation does not, and this is what is noted in them. -/
theorem workerStep_noted (op : Operation S (Item ι) σ α) (now : Nat) (p : Processor ι σ α)
    (w : Setting S) (noted : List (Note (Item ι) α)) :
    p.workerStep op.noted now (w.beside noted) =
      (p.workerStep op now w).map fun r => (r.1, r.2.beside (noted ++ p.workNotes op now w)) := by
  unfold workerStep workNotes
  cases p.worker with
  | none => rfl
  | some worker =>
    obtain ⟨task, drained⟩ := worker
    cases task with
    | starting =>
      simp only [Option.bind_some, List.append_nil]
      rfl
    | idle => simp only [Option.bind_some, wake_beside, List.append_nil]
    | working order effort => exact work_noted op p drained order effort now w noted
    | delivering result => simp only [Option.bind_some, deliver_beside, List.append_nil]
    | stopped => rfl

/-! ## How the work on an item goes on -/

/-- How the work on an item stands, as far as its calls tell. -/
inductive Stance (α : Type) where
  /-- No call is under way. -/
  | ready
  | calling
  /-- The latest call failed, and the work goes on. -/
  | failed (f : Failure)
  | done (outcome : Outcome α)

/-- How the calls stand in a phase of retries. -/
def Stance.ofPhase : Retry.Phase σ α → Stance α
  | .ready => .ready
  | .trying _ => .calling
  | .pausing f _ => .failed f
  | .ended outcome => .done outcome

/-- How the calls stand in the work on an item. -/
def Effort.stance : Effort σ α → Stance α
  | .ready => .ready
  | .trying _ => .calling
  | .tried outcome => .done outcome
  | .retrying _ run => .ofPhase run.phase

theorem Effort.stance_of_outcome? {effort : Effort σ α} {outcome : Outcome α}
    (h : effort.outcome? = some outcome) : effort.stance = .done outcome := by
  cases effort with
  | ready | trying s => cases h
  | tried outcome' =>
    obtain rfl := Option.some.inj h
    rfl
  | retrying policy run =>
    simp only [outcome?, Retry.Run.outcome?] at h
    split at h
    · rename_i hp
      obtain rfl := Option.some.inj h
      simp only [stance, hp, Stance.ofPhase]
    · cases h

/-- A call that ended like that leads there: the work is done with the call's
outcome, or its failure leaves something to do. -/
inductive Stance.Takes (outcome : Outcome α) : Stance α → Prop
  | done {outcome'} : resultOf outcome' = resultOf outcome → Takes outcome (.done outcome')
  | failed {f} : resultOf outcome = .error f → Takes outcome (.failed f)

/-- From one stance to the next, in a step in which that is noted of the calls for a
`request`. -/
inductive Moved (request : ι) : Stance α → List (Note ι α) → Stance α → Prop
  /-- The scope has ended before the call. -/
  | barred {reason} : Moved request .ready [] (.done (.failure (.scope reason)))
  | called : Moved request .ready [.begun request] .calling
  | passed {outcome stance} : Stance.Takes outcome stance →
      Moved request .ready [.begun request, .ended (some outcome)] stance
  | waited : Moved request .calling [] .calling
  | returned {outcome stance} : Stance.Takes outcome stance →
      Moved request .calling [.ended (some outcome)] stance
  /-- The scope has ended, and the call is abandoned. -/
  | cut {reason} : Moved request .calling [.ended none] (.done (.failure (.scope reason)))
  | renewed {f} : Moved request (.failed f) [] .ready
  /-- The scope has ended after a call that failed. -/
  | givenUp {f reason} : Moved request (.failed f) [] (.done (.failure (.scope reason)))
  | exhausted {f elapsed attempts} :
      Moved request (.failed f) [] (.done (.failure (.exhausted elapsed attempts f)))

theorem Stance.Takes.of_resultOf {outcome outcome' : Outcome α} {stance : Stance α}
    (h : Takes outcome' stance) (same : resultOf outcome' = resultOf outcome) : Takes outcome stance := by
  cases h with
  | done hd => exact .done (hd.trans same)
  | failed hf => exact .failed (same ▸ hf)

/-- Where a race leads: to wait is to be calling, a lost race ends the work, and
any other end is taken as it is. -/
structure Reads (stance : Progress σ (Verdict α) → Stance α) : Prop where
  waiting : ∀ s, stance (.waiting s) = .calling
  scopeEnded : ∀ reason, stance (.finished (.scopeEnded reason)) = .done (.failure (.scope reason))
  completed : ∀ outcome, Stance.Takes outcome (stance (.finished (.completed outcome)))

namespace Reads

variable {stance : Progress σ (Verdict α) → Stance α} (h : Reads stance) (op : Operation S ι σ α)
  (scope : Scope) (now : Nat) (w : Setting S)

include h

theorem caught (outcome : Outcome α) : Stance.Takes outcome
    (stance ((Operation.catching.caught (w, .finished outcome)).2.map id .completed)) := by
  cases outcome with
  | value a | failure f => exact h.completed _
  | panic message => exact (h.completed _).of_resultOf rfl

theorem start (request : ι) (n : Nat) : Moved request .ready (Race.startNotes op request n scope now w)
    (stance (Race.start op.catching request n scope now w).2) := by
  unfold Race.start Race.startNotes
  cases scope.ended? w.signals now with
  | some reason =>
    simp only [h.scopeEnded]
    exact .barred
  | none =>
    simp only [Operation.catching]
    generalize op.start request n scope now w = r
    obtain ⟨w', p⟩ := r
    cases p with
    | waiting s =>
      show Moved request .ready [.begun request] (stance (.waiting s))
      rw [h.waiting]
      exact .called
    | finished outcome => exact .passed (h.caught w' outcome)

theorem resume (request : ι) {s : σ} {w' : Setting S} {p : Progress σ (Verdict α)}
    (hr : Race.resume op.catching scope now s w = some (w', p)) :
    Moved request .calling (Race.resumeNotes op scope now s w) (stance p) := by
  unfold Race.resume at hr
  unfold Race.resumeNotes
  cases hs : scope.ended? w.signals now with
  | some reason =>
    simp only [hs] at hr
    cases hr
    simp only [h.scopeEnded]
    exact .cut
  | none =>
    simp only [hs, Operation.catching, Option.map_map] at hr
    obtain ⟨⟨w'', q⟩, ho, hr⟩ := Option.map_eq_some_iff.1 hr
    simp only [ho, Option.elim_some]
    obtain rfl := congrArg Prod.snd hr
    cases q with
    | waiting s' =>
      show Moved request .calling [] (stance (.waiting s'))
      rw [h.waiting]
      exact .waited
    | finished outcome => exact .returned (h.caught w'' outcome)

end Reads

theorem reads_proceed (w : Setting S) :
    Reads fun p : Progress σ (Verdict α) => (Effort.proceed (w, p)).1.stance where
  waiting _ := rfl
  scopeEnded _ := rfl
  completed _ := .done rfl

theorem reads_run (job : Retry.Job ι) (now : Nat) (run : Retry.Run σ α) (w : Setting S) :
    Reads fun p : Progress σ (Verdict α) => Stance.ofPhase (run.proceed job now (w, p)).1.phase where
  waiting _ := rfl
  scopeEnded _ := rfl
  completed outcome := by
    cases outcome with
    | value a => exact .done rfl
    | panic message => exact .done rfl
    | failure f =>
      simp only [Retry.Run.proceed, Retry.Run.settle]
      by_cases hf : Retry.isFinal job.patterns f = true
      · simp only [hf, if_true]
        exact .done rfl
      · simp only [hf, Bool.false_eq_true, if_false]
        exact .failed rfl

theorem moved_run {op : Operation S ι σ α} {job : Retry.Job ι} {now : Nat} {run run' : Retry.Run σ α}
    {w w' : Setting S} (h : run.step op.catching job now w = some (run', w')) :
    Moved job.request (.ofPhase run.phase) (run.notes op job now w) (.ofPhase run'.phase) := by
  cases Retry.Stepped.of_step h with
  | @began w'' p hp hr =>
    have hm := (reads_run job now (run.counted now) w'').start op job.scope now w job.request
      (run.attempt + 1)
    simp only [hr] at hm
    simp only [Retry.Run.notes, hp]
    exact hm
  | @resumed s w'' p hp hr =>
    have hm := (reads_run job now run w'').resume op job.scope now w job.request hr
    simp only [Retry.Run.notes, hp]
    exact hm
  | cut hp hs =>
    simp only [Retry.Run.notes, hp]
    exact .givenUp
  | exhausted hp _ _ _ =>
    simp only [Retry.Run.notes, hp]
    exact .exhausted
  | renewed hp _ _ _ =>
    simp only [Retry.Run.notes, hp]
    exact .renewed

/-- **A step of the work on an item** moves it on as its notes tell. -/
theorem Effort.moved {op : Operation S (Item ι) σ α} {config : Config} {order : Order ι} {now : Nat}
    {effort effort' : Effort σ α} {w w' : Setting S}
    (h : effort.step op config order now w = some (effort', w')) :
    Moved order.item effort.stance (effort.notes op config order now w) effort'.stance := by
  cases effort with
  | ready =>
    have hm := (reads_proceed (Race.start op.catching order.item 1 order.scope now w).1).start op
      order.scope now w order.item 1
    obtain rfl := congrArg Prod.fst (Option.some.inj h)
    exact hm
  | trying s =>
    obtain ⟨⟨w'', p⟩, hr, h⟩ := Option.map_eq_some_iff.1 h
    obtain rfl := congrArg Prod.fst h
    exact (reads_proceed w'').resume op order.scope now w order.item hr
  | tried outcome => cases h
  | retrying policy run =>
    obtain ⟨⟨run', w''⟩, hr, h⟩ := Option.map_eq_some_iff.1 h
    cases h
    exact moved_run hr

end Processor

end CallGuard
