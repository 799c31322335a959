/-
How the work on items ends. The ends that the work on items came to in a run (`endings`) are
seen with the state of the item's scope just before, and what is recorded of the items is told
by them (`Told`). Work ends with its scope, with what its latest call returned, or because its
retry budget is spent (`Cause`).
-/
import CallGuard.Proofs.Processor.Panics

namespace CallGuard

variable {S ι σ α : Type}

/-! ## Races that are over -/

namespace Race

/-- A race was lost to the end of its scope or won by its operation, and the notes tell of the
latter, after those of what was `begun` in the same step. -/
inductive Over (scope : Scope) (s : Signals) (now : Nat) (begun : List (Note ι α)) :
    List (Note ι α) → Verdict α → Prop
  | lost {reason notes} : scope.ended? s now = some reason → Over scope s now begun notes (.scopeEnded reason)
  | won {outcome} : scope.ended? s now = none →
      Over scope s now begun (begun ++ [.ended (some outcome)]) (.completed outcome.tamed)

variable {op : Operation S ι σ α} {scope : Scope} {now : Nat} {w w' : Setting S} {verdict : Verdict α}

theorem caught_finished (w : Setting S) (outcome : Outcome α) :
    (Operation.catching.caught (σ := σ) (w, .finished outcome)).2 = .finished outcome.tamed := by
  cases outcome <;> rfl

theorem over_start {request : ι} {n : Nat}
    (h : start op.catching request n scope now w = (w', .finished verdict)) :
    Over scope w.signals now [.begun request] (startNotes op request n scope now w) verdict := by
  unfold start at h
  unfold startNotes
  cases hs : scope.ended? w.signals now with
  | some reason =>
    rw [hs] at h
    cases h
    exact .lost hs
  | none =>
    simp only [hs, Operation.catching] at h
    generalize op.start request n scope now w = r at h ⊢
    obtain ⟨w'', p⟩ := r
    have end_ := congrArg Prod.snd h
    cases p with
    | waiting s => cases end_
    | finished outcome =>
      simp only [caught_finished, Progress.map] at end_
      cases end_
      exact .won hs

theorem over_resume {s : σ} (h : resume op.catching scope now s w = some (w', .finished verdict)) :
    Over scope w.signals now [] (resumeNotes op scope now s w) verdict := by
  unfold resume at h
  unfold resumeNotes
  cases hs : scope.ended? w.signals now with
  | some reason =>
    rw [hs] at h
    cases h
    exact .lost hs
  | none =>
    simp only [hs, Operation.catching, Option.map_map] at h
    obtain ⟨⟨w'', p⟩, hr, h⟩ := Option.map_eq_some_iff.1 h
    have end_ := congrArg Prod.snd h
    simp only [hr, Option.elim_some]
    cases p with
    | waiting s => cases end_
    | finished outcome =>
      simp only [Function.comp_apply, caught_finished, Progress.map] at end_
      cases end_
      exact .won hs

end Race

/-- A run that comes to its end with a try takes the try's outcome. It tries again after a
failure that is not final. -/
theorem Retry.Run.verdict_of_outcome? {job : Retry.Job ι} {now : Nat} {run : Retry.Run σ α} {w : Setting S}
    {p : Progress σ (Verdict α)} {outcome : Outcome α}
    (h : (run.proceed job now (w, p)).1.outcome? = some outcome) :
    ∃ verdict, p = .finished verdict ∧ outcome = verdict.outcome ∧
      ∀ f, verdict = .completed (.failure f) → isFinal job.patterns f = true := by
  cases p with
  | waiting s => cases h
  | finished verdict =>
    refine ⟨verdict, rfl, ?_⟩
    cases verdict with
    | scopeEnded reason =>
      cases h
      exact ⟨rfl, nofun⟩
    | completed result =>
      cases result with
      | value a | panic message =>
        cases h
        exact ⟨rfl, nofun⟩
      | failure f =>
        simp only [proceed, settle] at h
        split at h
        · rename_i final
          cases h
          refine ⟨rfl, fun f' same => ?_⟩
          cases same
          exact final
        · cases h

namespace Processor

/-! ## How the work on an item ends -/

/-- Whether an outcome of a call ends the work on the item. Under a policy a failure does so only
if it is final. -/
def Config.settles (config : Config) : Outcome α → Bool
  | .failure f => config.policy.isNone || Retry.isFinal config.patterns f
  | .value _ | .panic _ => true

/-- How the work on an item ends in a step in which that is noted of its calls. -/
inductive Ends (config : Config) (order : Order ι) (now : Nat) (s : Signals) :
    Stance α → List (Note (Item ι) α) → Outcome α → Prop
  | cut {stance notes reason} : order.scope.ended? s now = some reason →
      Ends config order now s stance notes (.failure (.scope reason))
  /-- A call returned at once. -/
  | passed {outcome} : order.scope.ended? s now = none → config.settles (α := α) outcome.tamed = true →
      Ends config order now s .ready [.begun order.item, .ended (some outcome)] outcome.tamed
  | returned {outcome} : order.scope.ended? s now = none → config.settles (α := α) outcome.tamed = true →
      Ends config order now s .calling [.ended (some outcome)] outcome.tamed
  | exhausted {f policy b attempts} : order.scope.ended? s now = none → config.policy = some policy →
      Instant.after? order.started policy.budget = some b → b ≤ now →
      Ends config order now s (.failed f) [] (.failure (.exhausted (now - order.started) attempts f))

namespace Effort

variable {op : Operation S (Item ι) σ α} {config : Config} {order : Order ι} {now : Nat}
  {effort effort' : Effort σ α} {w w' : Setting S}

/-- The policy under which tries are made. -/
def policy? : Effort σ α → Option Retry.Policy
  | .retrying policy _ => some policy
  | .ready | .trying _ | .tried _ => none

theorem policy?_initial (policy : Option Retry.Policy) : (initial (σ := σ) (α := α) policy).policy? = policy := by
  cases policy <;> rfl

theorem policy?_step (h : effort.step op config order now w = some (effort', w')) :
    effort'.policy? = effort.policy? := by
  have proceeds (r : Setting S × Progress σ (Verdict α)) : (proceed r).1.policy? = none := by
    obtain ⟨w'', p⟩ := r
    cases p <;> rfl
  cases effort with
  | ready =>
    obtain ⟨rfl, -⟩ := Prod.ext_iff.1 (Option.some.inj h)
    exact proceeds _
  | trying s =>
    obtain ⟨r, -, h⟩ := Option.map_eq_some_iff.1 h
    obtain ⟨rfl, -⟩ := Prod.ext_iff.1 h
    exact proceeds r
  | tried outcome => cases h
  | retrying policy run =>
    obtain ⟨⟨run', w''⟩, -, h⟩ := Option.map_eq_some_iff.1 h
    cases h
    rfl

theorem ends_of_over {begun notes : List (Note (Item ι) α)} {stance : Stance α} {s : Signals}
    {verdict : Verdict α} (raced : Race.Over order.scope s now begun notes verdict)
    (settles : ∀ outcome, verdict = .completed outcome → config.settles outcome = true)
    (won : ∀ outcome : Outcome α, order.scope.ended? s now = none → config.settles outcome.tamed = true →
      Ends config order now s stance (begun ++ [.ended (some outcome)]) outcome.tamed) :
    Ends config order now s stance notes verdict.outcome := by
  cases raced with
  | lost ended => exact .cut ended
  | won going => exact won _ going (settles _ rfl)

theorem settles_of_final {policy : Retry.Policy} {verdict : Verdict α}
    (final : ∀ f, verdict = .completed (.failure f) →
      Retry.isFinal (job config policy order).patterns f = true) (outcome : Outcome α)
    (h : verdict = .completed outcome) : config.settles outcome = true := by
  cases outcome with
  | value a | panic message => rfl
  | failure f =>
    have final : Retry.isFinal config.patterns f = true := final f h
    rw [Config.settles, final, Bool.or_true]

theorem settles_of_none (none : config.policy = none) (outcome : Outcome α) :
    config.settles outcome = true := by
  cases outcome with
  | value a | panic message => rfl
  | failure f => simp only [Config.settles, none, Option.isNone_none, Bool.true_or]

/-- **How a step ends the work on an item.** -/
theorem ends_of_step (planned : effort.policy? = config.policy)
    (h : effort.step op config order now w = some (effort', w')) {outcome : Outcome α}
    (ended : effort'.outcome? = some outcome) :
    Ends config order now w.signals effort.stance (effort.notes op config order now w) outcome := by
  -- A try that is the only one ends the work in any case.
  have only (none : config.policy = none) {r : Setting S × Progress σ (Verdict α)}
      (ended : (proceed r).1.outcome? = some outcome) :
      ∃ verdict, r.2 = .finished verdict ∧ outcome = verdict.outcome := by
    obtain ⟨w'', p⟩ := r
    cases p with
    | waiting s => cases ended
    | finished verdict =>
      cases ended
      exact ⟨verdict, rfl, rfl⟩
  cases effort with
  | ready =>
    obtain ⟨rfl, -⟩ := Prod.ext_iff.1 (Option.some.inj h)
    obtain ⟨verdict, hv, rfl⟩ := only planned.symm ended
    exact ends_of_over (Race.over_start (Prod.ext rfl hv)) (fun o _ => settles_of_none planned.symm o)
      fun _ => .passed
  | trying s =>
    obtain ⟨r, hr, h⟩ := Option.map_eq_some_iff.1 h
    obtain ⟨rfl, -⟩ := Prod.ext_iff.1 h
    obtain ⟨verdict, hv, rfl⟩ := only planned.symm ended
    exact ends_of_over (Race.over_resume (hr.trans (congrArg some (Prod.ext rfl hv))))
      (fun o _ => settles_of_none planned.symm o) fun _ => .returned
  | tried outcome => cases h
  | retrying policy run =>
    obtain ⟨⟨run', w''⟩, hr, h⟩ := Option.map_eq_some_iff.1 h
    cases h
    cases Retry.Stepped.of_step hr with
    | began hp hs =>
      obtain ⟨verdict, rfl, rfl, final⟩ := Retry.Run.verdict_of_outcome? ended
      simp only [stance, hp, Stance.ofPhase, notes, Retry.Run.notes]
      exact ends_of_over (Race.over_start hs) (settles_of_final final) fun _ => .passed
    | resumed hp hs =>
      obtain ⟨verdict, rfl, rfl, final⟩ := Retry.Run.verdict_of_outcome? ended
      simp only [stance, hp, Stance.ofPhase, notes, Retry.Run.notes]
      exact ends_of_over (Race.over_resume hs) (settles_of_final final) fun _ => .returned
    | cut hp hs =>
      cases ended
      exact .cut hs
    | exhausted hp hs hb spent =>
      cases ended
      simp only [stance, hp, Stance.ofPhase, notes, Retry.Run.notes]
      exact .exhausted hs planned.symm hb spent
    | renewed hp _ _ _ => cases ended

end Effort

/-! ## The order in work -/

namespace World

theorem lifetime_apply (op : Operation S (Item ι) σ α) (w : World S ι σ α) (e : Event S ι) :
    (w.apply op e).processor.lifetime = w.processor.lifetime := by
  cases he : e.isWork with
  | true =>
    cases Event.eq_work he
    simp only [apply, work]
    split
    · rename_i hs
      exact (Worked.of_workerStep hs).lifetime
    · rfl
  | false => exact (worker_apply op w he).1

theorem le_now_apply (op : Operation S (Item ι) σ α) (w : World S ι σ α) (e : Event S ι) :
    w.now ≤ (w.apply op e).now := by
  by_cases passes : ∃ d, e = .pass d
  · obtain ⟨d, rfl⟩ := passes
    exact Nat.le_add_right _ _
  · exact Nat.le_of_eq (now_apply op w fun d hd => passes ⟨d, hd⟩).symm

/-- The order in work was in work before, or the worker has just taken its item. -/
theorem order_apply {op : Operation S (Item ι) σ α} {w : World S ι σ α} {e : Event S ι}
    {order : Order ι} {effort : Effort σ α}
    (ht : (w.apply op e).processor.task? = some (.working order effort)) :
    (∃ effort', w.processor.task? = some (.working order effort') ∧ effort.policy? = effort'.policy?) ∨
      e.isWork = true ∧ (∃ item, order = (w.processor.orderOf item w.now w.setting).1) ∧
        effort = .initial w.processor.config.policy := by
  cases he : e.isWork with
  | true =>
    cases Event.eq_work he
    simp only [apply, work] at ht
    split at ht
    · rename_i p s hs
      cases Worked.of_workerStep hs with
      | @took _ item _ _ _ _ =>
        cases ht
        exact .inr ⟨rfl, ⟨item, rfl⟩, rfl⟩
      | tried worker _ stepped =>
        cases ht
        exact .inl ⟨_, task?_of_worker worker, Effort.policy?_step stepped⟩
      | began _ | turned _ _ | halted _ _ | concluded _ _ | delivered _ _ | discarded _ _ _ => cases ht
    · exact .inl ⟨effort, ht, rfl⟩
  | false =>
    rcases (worker_apply op w he).2 with same | ⟨-, new⟩
    · exact .inl ⟨effort, by rw [← ht, task?, task?, same], rfl⟩
    · rw [task?, new] at ht
      cases ht

end World

/-- How the order in work was made out. -/
structure MadeOut (p : Processor ι σ α) (now : Nat) (order : Order ι) (effort : Effort σ α) : Prop where
  planned : effort.policy? = p.config.policy
  started : order.started ≤ now
  deadline : order.scope.deadline = Instant.after? order.started p.config.itemTimeout
  above : order.scope.token.ancestors = p.lifetime.token.id :: p.lifetime.token.ancestors

/-- What is in work was made out for it. -/
structure Planned (w : World S ι σ α) : Prop where
  lifetime : w.processor.lifetime.deadline = none
  order : ∀ order effort, w.processor.task? = some (.working order effort) →
    MadeOut w.processor w.now order effort

namespace Planned

variable {w : World S ι σ α}

theorem apply (h : Planned w) (op : Operation S (Item ι) σ α) (e : Event S ι) : Planned (w.apply op e) := by
  have config : (w.apply op e).processor.config = w.processor.config := (World.steady_apply e).1
  have lifetime : (w.apply op e).processor.lifetime = w.processor.lifetime := World.lifetime_apply op w e
  have now : w.now ≤ (w.apply op e).now := World.le_now_apply op w e
  refine ⟨lifetime ▸ h.lifetime, fun order effort ht => ?_⟩
  rcases World.order_apply ht with ⟨effort', before, policy⟩ | ⟨-, ⟨item, rfl⟩, rfl⟩
  · have made := h.order order effort' before
    exact ⟨policy.trans (config ▸ made.planned), Nat.le_trans made.started now, config ▸ made.deadline,
      lifetime ▸ made.above⟩
  · refine ⟨config ▸ Effort.policy?_initial _, now, ?_, lifetime ▸ rfl⟩
    simp only [orderOf, Scope.withTimeout, h.lifetime, earlier, config]

theorem play (op : Operation S (Item ι) σ α) (config : Config) (setting : Setting S)
    (events : List (Event S ι)) : Planned (World.play op config setting events) :=
  World.play_induction ⟨rfl, nofun⟩ (fun _ e h => h.apply op e) events

end Planned

/-! ## The ends of a run -/

/-- An end to which the work on an item came. -/
structure Ending (ι α : Type) where
  order : Order ι
  instant : Nat
  /-- The tokens cancelled just before. -/
  signals : Signals
  outcome : Outcome α

namespace Ending

/-- Whether the item's scope had ended just before, and why. -/
def scopeEnd (e : Ending ι α) : Option ScopeEnd := e.order.scope.ended? e.signals e.instant

/-- The item, with the result that is recorded of it if that is done at once. -/
def record (e : Ending ι α) : Item ι × Result α :=
  (e.order.item, ⟨e.order.item.id, resultOf e.outcome, e.instant - e.order.started⟩)

/-- It came with the end of the item's scope, or with what the latest call for the item
returned. -/
inductive Plain (config : Config) (last : Option (Attempt ι α)) (e : Ending ι α) : Prop
  | cut {reason} : e.scopeEnd = some reason → e.outcome = .failure (.scope reason) → Plain config last e
  | returned {t outcome} : e.scopeEnd = none → last = some t → t.ended = some (e.instant, some outcome) →
      config.settles (α := α) outcome.tamed = true → e.outcome = outcome.tamed → Plain config last e

/-- Why it came, given the latest call for the item. -/
inductive Cause (config : Config) (last : Option (Attempt ι α)) (e : Ending ι α) : Prop
  | plain : e.Plain config last → Cause config last e
  | exhausted {t at_ outcome f policy b attempts} : e.scopeEnd = none → last = some t →
      t.ended = some (at_, some outcome) → resultOf outcome = .error f → config.policy = some policy →
      Instant.after? e.order.started policy.budget = some b → b ≤ e.instant →
      e.outcome = .failure (.exhausted (e.instant - e.order.started) attempts f) → Cause config last e

end Ending

namespace World

variable {op : Operation S (Item ι) σ α} {config : Config} {setting : Setting S} {w : World S ι σ α}
  {e : Event S ι} {events : List (Event S ι)} {ending : Ending ι α}

/-- The end to which the work on an item comes in an event, if it does. -/
def ending? (op : Operation S (Item ι) σ α) (w : World S ι σ α) : Event S ι → Option (Ending ι α)
  | .work =>
    match w.processor.task?, (w.work op).processor.task? with
    | some (.working order _), some (.working _ effort) =>
      effort.outcome?.map (⟨order, w.now, w.setting.signals, ·⟩)
    | _, _ => none
  | _ => none

/-- The ends to which the work on items comes in a run, the oldest first. -/
def endings (op : Operation S (Item ι) σ α) : World S ι σ α → List (Event S ι) → List (Ending ι α)
  | _, [] => []
  | w, e :: events => (w.ending? op e).toList ++ endings op (w.apply op e) events

theorem endings_append {events' : List (Event S ι)} : w.endings op (events ++ events') =
    w.endings op events ++ (events.foldl (apply op) w).endings op events' := by
  induction events generalizing w with
  | nil => rfl
  | cons e events ih =>
    rw [List.cons_append, endings, endings, ih, List.append_assoc]
    rfl

theorem endings_concat (op : Operation S (Item ι) σ α) (config : Config) (setting : Setting S)
    (events : List (Event S ι)) (e : Event S ι) : (initial config setting).endings op (events ++ [e]) =
      (initial config setting).endings op events ++
        ((play op config setting events).ending? op e).toList := by
  rw [endings_append, endings, endings, List.append_nil]
  rfl

theorem exists_of_mem_endings (h : ending ∈ (initial config setting).endings op events) :
    ∃ before after, events = before ++ .work :: after ∧
      (play op config setting before).ending? op .work = some ending := by
  induction events using List.reverseRecOn with
  | nil => cases h
  | append_singleton events e ih =>
    rw [endings_concat] at h
    rcases List.mem_append.1 h with old | new
    · obtain ⟨before, after, rfl, found⟩ := ih old
      exact ⟨before, after ++ [e], by rw [List.append_assoc, List.cons_append], found⟩
    · have found := Option.mem_toList.1 new
      cases e with
      | work => exact ⟨events, [], rfl, found⟩
      | _ => cases found

/-- The step in which the work on an item comes to its end. -/
structure LastStep (op : Operation S (Item ι) σ α) (w : World S ι σ α) (ending : Ending ι α)
    (effort effort' : Effort σ α) (setting : Setting S) (drained : Option Nat) : Prop where
  worker : w.processor.worker = some ⟨.working ending.order effort, drained⟩
  going : effort.outcome? = none
  stepped : effort.step op w.processor.config ending.order w.now w.setting = some (effort', setting)
  outcome : effort'.outcome? = some ending.outcome
  instant : ending.instant = w.now
  signals : ending.signals = w.setting.signals

theorem ending?_of_waits (hs : w.processor.workerStep op w.now w.setting = none) :
    w.ending? op .work = none := by
  have same : w.work op = w := by simp only [work, hs]
  simp only [ending?, same]
  cases ht : w.processor.task? with
  | none => rfl
  | some task =>
    cases task with
    | working order effort => simp only [atRest_of_waits hs order effort ht, Option.map_none]
    | starting | idle | delivering result | stopped => rfl

theorem lastStep_of_ending? (h : w.ending? op .work = some ending) :
    ∃ effort effort' setting drained, LastStep op w ending effort effort' setting drained := by
  cases hs : w.processor.workerStep op w.now w.setting with
  | none =>
    rw [ending?_of_waits hs] at h
    cases h
  | some r =>
    obtain ⟨p, setting⟩ := r
    simp only [ending?, work, hs] at h
    cases Worked.of_workerStep hs with
    | @tried drained order effort effort' setting worker going stepped =>
      simp only [task?_of_worker worker, task?_assign] at h
      obtain ⟨outcome, came, rfl⟩ := Option.map_eq_some_iff.1 h
      exact ⟨effort, effort', setting, drained, worker, going, stepped, came, rfl, rfl⟩
    | began worker | turned worker _ | took worker _ _ | halted worker _ | concluded worker _
    | delivered worker _ | discarded worker _ _ =>
      simp only [task?_of_worker worker, conclude, task?_assign, reduceCtorEq] at h

/-- **Why the work on an item ended**, as the calls up to then tell. -/
theorem LastStep.cause {effort effort' : Effort σ α} {setting : Setting S} {drained : Option Nat}
    {attempts : List (Attempt ι α)} (h : LastStep op w ending effort effort' setting drained)
    (planned : Planned w) (turn : InTurn w attempts) :
    ending.Cause w.processor.config
      (latest ((w.notes op .work).foldl w.enter attempts) w.books.recorded.length) := by
  have ht := task?_of_worker h.worker
  have tracks : Tracks attempts w.books.recorded.length effort.stance := by
    have standing := turn.standing
    rw [ht] at standing
    exact standing
  have notes : w.notes op .work =
      effort.notes op w.processor.config ending.order w.now w.setting := by
    have steps : w.processor.workerStep op w.now w.setting =
        some (w.processor.assign (.working ending.order effort') drained, setting) := by
      simp only [workerStep, h.worker, Option.bind_some, Processor.work, h.going, h.stepped, Option.map_some]
    rw [notes_work, steps]
    simp only [Option.elim_some, workNotes, h.worker, h.going, Option.isSome_none, Bool.false_eq_true, if_false]
  have ends := Effort.ends_of_step (planned.order _ _ ht).planned h.stepped h.outcome
  rw [notes]
  obtain ⟨order, instant, signals, outcome⟩ := ending
  obtain ⟨rfl, rfl⟩ : instant = w.now ∧ signals = w.setting.signals := ⟨h.instant, h.signals⟩
  generalize effort.stance = stance at tracks ends
  generalize effort.notes op w.processor.config order w.now w.setting = noted at ends
  dsimp only at ends
  cases ends with
  | cut ended => exact .plain (.cut ended rfl)
  | passed going settles =>
    exact .plain (.returned going (latest_cons_of_eq rfl) (Attempt.ended_close rfl _) settles rfl)
  | returned going settles =>
    cases tracks with
    | calling ha hk open_ _ =>
      subst ha
      exact .plain (.returned going (latest_cons_of_eq hk) (Attempt.ended_close open_ _) settles rfl)
  | exhausted going hp hb spent =>
    cases tracks with
    | failed _ hl he hf => exact .exhausted going hl he hf hp hb spent rfl

theorem cause_of_ending? (h : (play op config setting events).ending? op .work = some ending) :
    ending.Cause config (latest (attempts op config setting (events ++ [.work]))
      (play op config setting events).books.recorded.length) := by
  obtain ⟨effort, effort', s, drained, last⟩ := lastStep_of_ending? h
  have cause := last.cause (Planned.play op config setting events) (inTurn_play op config setting events)
  rw [← attempts_concat, config_play] at cause
  exact cause

theorem deadline_of_ending? (h : (play op config setting events).ending? op .work = some ending) :
    ending.order.scope.deadline = Instant.after? ending.order.started config.itemTimeout := by
  obtain ⟨effort, effort', s, drained, last⟩ := lastStep_of_ending? h
  have made := (Planned.play op config setting events).order _ _ (task?_of_worker last.worker)
  rw [← config_play op config setting events]
  exact made.deadline

end World

/-! ## What the ends tell of the items -/

/-- The item in work with its result, if it has come to an outcome that is not recorded yet. -/
def Task.reached (now : Nat) : Task ι σ α → List (Item ι × Result α)
  | .working order effort => effort.outcome?.toList.map fun outcome =>
    (order.item, ⟨order.item.id, resultOf outcome, now - order.started⟩)
  | _ => []

/-- The outcome that the worker has come to and not recorded yet, with its item. -/
def World.reached (w : World S ι σ α) : List (Item ι × Result α) :=
  w.processor.task?.elim [] (·.reached w.now)

namespace World

variable {op : Operation S (Item ι) σ α} {w : World S ι σ α}

theorem reached_of_atRest (h : AtRest w.processor) : w.reached = [] := by
  unfold reached
  cases ht : w.processor.task? with
  | none => rfl
  | some task =>
    cases task with
    | working order effort => simp only [Option.elim_some, Task.reached, h order effort ht]; rfl
    | starting | idle | delivering result | stopped => rfl

/-- Time passes only when there is no outcome to record. -/
theorem MayPass.atRest {instant : Nat} (h : w.MayPass op instant) : AtRest w.processor := by
  rcases h.worker with idle | ⟨order, effort, ht, calling, -⟩
  · exact atRest_of_waits idle
  · intro order' effort' ht'
    rw [ht] at ht'
    cases ht'
    refine Option.eq_none_iff_forall_ne_some.2 fun outcome came => ?_
    rw [Effort.stance_of_outcome? came] at calling
    cases calling

end World

/-- What is recorded of the items is what the work on them ended with, as far as the `view` goes. -/
structure Told {β : Type} (view : Item ι × Result α → β) (w : World S ι σ α) (endings : List (Ending ι α)) :
    Prop where
  worked : w.processor.worker ≠ none →
    (endings.map (·.record)).map view = (w.books.recorded ++ w.reached).map view
  /-- Without a worker all items are answered alike. -/
  unworked : w.processor.worker = none → endings = [] ∧
    ∀ r ∈ w.books.recorded, r.2.outcome = .error .notStarted
  fresh : w.processor.stage = .fresh → w.books.recorded = []

namespace Told

variable {β : Type} {view : Item ι × Result α → β} {op : Operation S (Item ι) σ α}
  {w w' : World S ι σ α} {endings : List (Ending ι α)}

theorem of_same (h : Told view w endings) (reached : w'.reached.map view = w.reached.map view)
    (recorded : w'.books.recorded = w.books.recorded)
    (worker : w'.processor.worker = w.processor.worker)
    (fresh : w'.processor.stage = .fresh → w.processor.stage = .fresh) : Told view w' endings where
  worked manned := by
    rw [List.map_append, recorded, reached, ← List.map_append]
    exact h.worked (worker ▸ manned)
  unworked none := by
    rw [recorded]
    exact h.unworked (worker ▸ none)
  fresh hf := recorded ▸ h.fresh (fresh hf)

theorem stop (h : Told view w endings) (sound : Sound w.processor) : Told view w.stop endings := by
  have books : w.stop.books = w.books.watchStop w.processor := by
    simp only [World.stop, World.books_proceedStop]
  have begun := w.processor.stopBegun w.setting
  have worker : w.stop.processor.worker = w.processor.worker := by
    rw [World.processor_stop, begun.worker]
  have stage : w.stop.processor.stage ≠ .fresh := by
    rw [World.processor_stop, begun.stage, if_neg sound.kept]
    decide
  by_cases hs : w.processor.stage = .fresh
  · -- All that wait are answered, and nothing was recorded before.
    have none := sound.fresh hs
    have recorded : w.stop.books.recorded =
        w.processor.input.map fun item => (item, ⟨item.id, .error .notStarted, 0⟩) := by
      rw [books, Books.watchStop, if_pos hs, Books.recorded_watchAnswers, h.fresh hs, List.nil_append]
    refine ⟨fun manned => absurd (worker.trans none) manned, fun _ => ⟨(h.unworked none).1, fun r hr => ?_⟩,
      fun fresh => absurd fresh stage⟩
    rw [recorded] at hr
    obtain ⟨item, -, rfl⟩ := List.mem_map.1 hr
    rfl
  · rw [Books.watchStop, if_neg hs] at books
    have now : w.stop.now = w.now := by
      simp only [World.stop, World.now_proceedStop]
      rfl
    exact h.of_same (by simp only [World.reached, task?, worker, now]) (by rw [books]) worker
      fun fresh => absurd fresh stage

/-- **A step of the worker** records what the work ended with. -/
theorem work (h : Told view w endings) (sound : Sound w.processor) :
    Told view (w.work op) (endings ++ (w.ending? op .work).toList) := by
  cases hs : w.processor.workerStep op w.now w.setting with
  | none =>
    have same : w.work op = w := by simp only [World.work, hs]
    rw [World.ending?_of_waits hs, same, Option.toList_none, List.append_nil]
    exact h
  | some r =>
  obtain ⟨p, setting⟩ := r
  have hw := Worked.of_workerStep hs
  have manned : w.processor.worker ≠ none := by
    intro none
    rw [workerStep, none] at hs
    cases hs
  have still : p.worker ≠ none := by cases hw <;> exact Option.some_ne_none _
  have stage : p.stage = w.processor.stage := hw.steady.2.1
  have before := h.worked manned
  have after {new : List (Ending ι α)} {w' : World S ι σ α} (hw : w'.processor = p)
      (records : ((endings ++ new).map (·.record)).map view = (w'.books.recorded ++ w'.reached).map view) :
      Told view w' (endings ++ new) :=
    ⟨fun _ => records, fun none => absurd (hw ▸ none) still,
      fun fresh => absurd (sound.fresh (stage ▸ hw ▸ fresh)) manned⟩
  simp only [World.ending?, World.work, hs]
  cases hw with
  | @tried drained order effort effort' _ worker going stepped =>
    have ht := task?_of_worker worker
    refine after rfl ?_
    simp only [World.reached, ht, task?_assign, Books.watch, Option.elim_some, Task.reached, going,
      Option.toList_none, List.map_nil, List.append_nil] at before ⊢
    rw [List.map_append, List.map_append, List.map_append, before]
    cases effort'.outcome? <;> rfl
  | @concluded drained order effort outcome worker came =>
    have ht := task?_of_worker worker
    refine after rfl ?_
    simp only [World.reached, ht, conclude, task?_assign, Books.watch, Books.record, Option.elim_some,
      Task.reached, came, Option.toList_none, Option.toList_some, List.map_cons, List.map_nil,
      List.append_nil] at before ⊢
    exact before
  | took worker _ _ =>
    have ht := task?_of_worker worker
    have first : (Effort.initial (σ := σ) (α := α) w.processor.config.policy).outcome? = none := by
      cases w.processor.config.policy <;> rfl
    refine after rfl ?_
    simp only [World.reached, ht, task?_assign, Books.watch, Option.elim_some, Task.reached, first,
      Option.toList_none, List.map_nil, List.append_nil] at before ⊢
    exact before
  | began worker | turned worker _ | halted worker _ =>
    have ht := task?_of_worker worker
    refine after rfl ?_
    simp only [World.reached, ht, task?_assign, Books.watch, Option.elim_some, Task.reached,
      Option.toList_none, List.append_nil] at before ⊢
    exact before
  | delivered worker _ | discarded worker _ _ =>
    have ht := task?_of_worker worker
    refine after rfl ?_
    simp only [World.reached, ht, task?_assign, Books.watch, Books.settle, Option.elim_some, Task.reached,
      Option.toList_none, List.append_nil] at before ⊢
    exact before

theorem apply {e : Event S ι} (h : Told view w endings) (sound : Sound w.processor)
    (passes : ∀ d, e = .pass d → (w.apply op e).reached.map view = w.reached.map view) :
    Told view (w.apply op e) (endings ++ (w.ending? op e).toList) := by
  cases he : e.isWork with
  | true =>
    cases Event.eq_work he
    exact h.work sound
  | false =>
    have unended : w.ending? op e = none := by
      cases e with
      | work => cases he
      | _ => rfl
    rw [unended, Option.toList_none, List.append_nil]
    have m := World.Happened.of_apply op w e
    generalize w.apply op e = w' at m passes ⊢
    cases m with
    | worked => cases he
    | stopped => exact h.stop sound
    | started fresh =>
      obtain ⟨rfl, -⟩ := h.unworked (sound.fresh fresh)
      refine ⟨fun _ => ?_, nofun, nofun⟩
      simp only [h.fresh fresh]
      rfl
    | proceeded _ hn =>
      obtain ⟨attended, hp⟩ := processor_of_continueStop hn
      refine h.of_same ?_ (by rw [World.books_proceedStop]) ?_ ?_
      · simp only [World.reached, task?, World.processor_proceedStop, World.now_proceedStop, hp]
      all_goals rw [World.processor_proceedStop, hp]
      exact id
    | passed d => exact h.of_same (passes d rfl) rfl rfl id
    | ignored _ | admitted _ _ | refused _ | gaveUp | aborted | claimed _ | read _ _ | unread _
    | reported _ _ | around setting => exact h.of_same rfl rfl rfl id

/-- What is recorded of an item is what the work on it ended with, unless it was answered without
any. -/
theorem exists_of_mem_recorded (h : Told view w endings) {r : Item ι × Result α}
    (hr : r ∈ w.books.recorded) :
    r.2.outcome = .error .notStarted ∨ ∃ e ∈ endings, view e.record = view r := by
  cases hw : w.processor.worker with
  | none => exact .inl ((h.unworked hw).2 r hr)
  | some worker =>
    have mem : view r ∈ (endings.map (·.record)).map view := by
      rw [h.worked (hw ▸ Option.some_ne_none worker)]
      exact List.mem_map_of_mem (List.mem_append_left _ hr)
    obtain ⟨_, hm, same⟩ := List.mem_map.1 mem
    obtain ⟨e, he, rfl⟩ := List.mem_map.1 hm
    exact .inr ⟨e, he, same⟩

end Told

/-- The item and its outcome. -/
def answerOf (r : Item ι × Result α) : Item ι × Except Failure α := (r.1, r.2.outcome)

section Runs

variable (op : Operation S (Item ι) σ α) (config : Config) (setting : Setting S)
  {events : List (Event S ι)}

/-- What is recorded of the items is what the work on them ended with. -/
theorem told_play (events : List (Event S ι)) : Told answerOf (World.play op config setting events)
    ((World.initial config setting).endings op events) := by
  induction events using List.reverseRecOn with
  | nil => exact ⟨fun manned => absurd rfl manned, fun _ => ⟨rfl, nofun⟩, fun _ => rfl⟩
  | append_singleton events e ih =>
    rw [World.play_concat, World.endings_concat]
    refine ih.apply (World.orderly_play op config setting events).sound fun d hd => ?_
    subst hd
    simp only [World.apply, World.reached]
    cases (World.play op config setting events).processor.task? with
    | none => rfl
    | some task =>
      cases task with
      | working order effort =>
        simp only [Option.elim_some, Task.reached]
        cases effort.outcome? <;> rfl
      | starting | idle | delivering result | stopped => rfl

/-- No time passes between the end of the work on an item and the record of it, so that the time
it has taken is recorded, too. -/
theorem told_prompt (prompt : (World.initial config setting).Prompt op events) :
    Told id (World.play op config setting events) ((World.initial config setting).endings op events) := by
  induction events using List.reverseRecOn with
  | nil => exact ⟨fun manned => absurd rfl manned, fun _ => ⟨rfl, nofun⟩, fun _ => rfl⟩
  | append_singleton events e ih =>
    obtain ⟨before, allows⟩ := World.prompt_concat.1 prompt
    rw [World.play_concat, World.endings_concat]
    refine (ih before).apply (World.orderly_play op config setting events).sound fun d hd => ?_
    subst hd
    have rest : AtRest (World.play op config setting events).processor := World.MayPass.atRest allows
    rw [World.reached_of_atRest rest, World.reached_of_atRest (by exact rest)]

end Runs

end Processor

end CallGuard
