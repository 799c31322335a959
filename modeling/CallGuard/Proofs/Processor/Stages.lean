/-
The life of a processor as its owner sees it: it is started at most once and its results are
handed out at most once; once a stop has returned it is at rest for good. A stop of a processor
that was never started answers the items itself.
-/
import CallGuard.Proofs.Processor.Order
import CallGuard.Proofs.Processor.Release

namespace CallGuard.Processor

variable {S ι σ α : Type}

/-! ## What the calls so far tell -/

theorem Stage.foldl_next_eq_fresh {events : List (Event S ι)} :
    events.foldl Stage.next .fresh = .fresh ↔ ∀ e ∈ events, e ≠ .start ∧ e ≠ .stop := by
  induction events using List.reverseRecOn with
  | nil => simp
  | append_singleton events e ih =>
    rw [List.foldl_append, List.foldl_cons, List.foldl_nil, List.forall_mem_append, ← ih]
    constructor
    · intro fresh
      have before := Stage.fresh_of_next fresh
      rw [before] at fresh
      refine ⟨before, fun e' he' => ?_⟩
      rw [List.mem_singleton.1 he']
      constructor <;> rintro rfl <;> cases fresh
    · rintro ⟨before, last⟩
      obtain ⟨start, stop⟩ := last e List.mem_cons_self
      rw [before]
      cases e with
      | start => exact absurd rfl start
      | stop => exact absurd rfl stop
      | _ => rfl

theorem Reader.foldl_next_eq_unclaimed {events : List (Event S ι)} :
    events.foldl Reader.next .unclaimed = .unclaimed ↔ .results ∉ events := by
  induction events using List.reverseRecOn with
  | nil => simp
  | append_singleton events e ih =>
    rw [List.foldl_append, List.foldl_cons, List.foldl_nil, List.mem_append, not_or, ← ih]
    cases events.foldl Reader.next .unclaimed with
    | unclaimed => cases e <;> simp [Reader.next]
    | claimed | gone => cases e <;> simp [Reader.next]

namespace World

variable {op : Operation S (Item ι) σ α} {config : Config} {setting : Setting S} {w : World S ι σ α}
  {e : Event S ι} {events : List (Event S ι)}

theorem stage_play (op : Operation S (Item ι) σ α) (config : Config) (setting : Setting S)
    (events : List (Event S ι)) :
    (play op config setting events).processor.stage = events.foldl Stage.next .fresh := by
  induction events using List.reverseRecOn with
  | nil => rfl
  | append_singleton events e ih =>
    rw [play_concat, (moves_apply e).1, ih, List.foldl_append, List.foldl_cons, List.foldl_nil]

/-- A worker is launched in an event: there is another than before, and it is no step of the
worker. -/
def Launches (op : Operation S (Item ι) σ α) (w : World S ι σ α) (e : Event S ι) : Prop :=
  e ≠ .work ∧ (w.apply op e).processor.worker ≠ w.processor.worker

/-- Only a start launches a worker, and only if the processor is fresh. -/
theorem launches_iff (sound : Sound w.processor) :
    Launches op w e ↔ e = .start ∧ w.processor.stage = .fresh := by
  by_cases start : e = .start
  · subst start
    simp only [Launches, apply, Processor.start, ne_eq, reduceCtorEq, not_false_eq_true, true_and]
    cases hs : w.processor.stage with
    | fresh => exact iff_of_true (by simp [sound.fresh hs]) rfl
    | launched | released | dropped => simp
  refine iff_of_false (fun launches => launches.2 ?_) fun started => start started.1
  have m := Happened.of_apply op w e
  generalize w.apply op e = w' at m ⊢
  cases m with
  | started => exact absurd rfl start
  | worked => exact absurd rfl launches.1
  | stopped => rw [processor_stop, (w.processor.stopBegun w.setting).worker]
  | proceeded _ hn =>
    obtain ⟨attended, hp⟩ := processor_of_continueStop hn
    rw [processor_proceedStop, hp]
  | ignored _ | admitted _ _ | refused _ | gaveUp | aborted | claimed _ | read _ _ | unread _
  | reported _ _ | passed d | around setting => rfl

/-! ## Stops that have returned -/

/-- A stop has returned in the course of a run. -/
def HasReturned (op : Operation S (Item ι) σ α) (config : Config) (setting : Setting S)
    (events : List (Event S ι)) : Prop :=
  ∃ before e after, events = before ++ e :: after ∧
    Returns (play op config setting before) e ((play op config setting before).apply op e)

theorem hasReturned_concat : HasReturned op config setting (events ++ [e]) ↔
    HasReturned op config setting events ∨
      Returns (play op config setting events) e ((play op config setting events).apply op e) :=
  exists_split_concat

theorem stops_apply (op : Operation S (Item ι) σ α) (w : World S ι σ α) (e : Event S ι)
    (he : e ≠ .stop) (ha : e ≠ .awaitStop) (hg : e ≠ .giveUpStop) :
    (w.apply op e).forsaken = w.forsaken ∧ (w.apply op e).stopped = w.stopped := by
  have m := Happened.of_apply op w e
  generalize w.apply op e = w' at m ⊢
  cases m with
  | stopped => exact absurd rfl he
  | proceeded => exact absurd rfl ha
  | gaveUp => exact absurd rfl hg
  | ignored _ | admitted _ _ | refused _ | started _ | aborted | claimed _ | read _ _ | unread _
  | worked _ _ | reported _ _ | passed d | around setting => exact ⟨rfl, rfl⟩

theorem proceedStop_cases (w : World S ι σ α) (next : Stopping × Processor ι σ α × Setting S) :
    (w.proceedStop next).forsaken = w.forsaken ∧
      ((w.proceedStop next).stopping = none ∧ next.1 = .nothing ∧
          (w.proceedStop next).stopped = (w.stopped || !w.forsaken) ∨
        (w.proceedStop next).stopping = some next.1 ∧ next.1 ≠ .nothing ∧
          (w.proceedStop next).stopped = w.stopped) := by
  obtain ⟨stopping, p, setting⟩ := next
  cases stopping with
  | nothing => exact ⟨rfl, .inl ⟨rfl, rfl, rfl⟩⟩
  | worker | reporter => exact ⟨rfl, .inr ⟨rfl, Stopping.noConfusion, rfl⟩⟩

theorem forsaken_of_apply (h : (w.apply op e).forsaken = false) : w.forsaken = false := by
  by_cases stop : e = .stop
  · subst stop
    rw [apply, World.stop, (proceedStop_cases _ _).1] at h
    exact (Bool.or_eq_false_iff.1 h).1
  by_cases await : e = .awaitStop
  · subst await
    simp only [apply, awaitStop] at h
    split at h
    · rwa [(proceedStop_cases _ _).1] at h
    · exact h
  by_cases giveUp : e = .giveUpStop
  · subst giveUp
    exact (Bool.or_eq_false_iff.1 h).1
  · rwa [(stops_apply op w e stop await giveUp).1] at h

/-- Unless one was given up, a stop has returned if one had before or one does now. -/
theorem stopped_apply (h : (w.apply op e).forsaken = false) :
    (w.apply op e).stopped = true ↔ w.stopped = true ∨ Returns w e (w.apply op e) := by
  have goesOn {v : World S ι σ α} {next} (called : e = .stop ∨ e = .awaitStop ∧ w.stopping ≠ none)
      (kept : (v.proceedStop next).forsaken = false) (same : v.stopped = w.stopped)
      (he : w.apply op e = v.proceedStop next) :
      (w.apply op e).stopped = true ↔ w.stopped = true ∨ Returns w e (w.apply op e) := by
    obtain ⟨forsaken, ⟨finished, -, stopped⟩ | ⟨waits, -, stopped⟩⟩ := v.proceedStop_cases next
    · rw [kept] at forsaken
      rw [← forsaken, Bool.not_false, Bool.or_true, ← he] at stopped
      exact iff_of_true stopped (.inr ⟨called, he ▸ finished⟩)
    · rw [he, stopped, same]
      refine ⟨.inl, fun either => either.resolve_right fun returns => ?_⟩
      have := waits.symm.trans returns.finished
      cases this
  have stays (same : (w.apply op e).stopped = w.stopped) (no : ¬ Returns w e (w.apply op e)) :
      (w.apply op e).stopped = true ↔ w.stopped = true ∨ Returns w e (w.apply op e) := by
    rw [same]
    exact ⟨.inl, fun either => either.resolve_right no⟩
  by_cases stop : e = .stop
  · subst stop
    exact goesOn (.inl rfl) h rfl rfl
  by_cases await : e = .awaitStop
  · subst await
    cases hn : w.stopping.bind (w.processor.continueStop w.setting) with
    | some next =>
      have he : w.apply op .awaitStop = w.proceedStop next := by simp only [apply, awaitStop, hn]
      refine goesOn (.inr ⟨rfl, fun idle => ?_⟩) (he ▸ h) rfl he
      rw [idle] at hn
      cases hn
    | none =>
      have he : w.apply op .awaitStop = w := by simp only [apply, awaitStop, hn]
      refine stays (by rw [he]) fun returns => ?_
      obtain ⟨-, underway⟩ := returns.called.resolve_left stop
      exact underway (he ▸ returns.finished)
  · have uncalled : ¬ Returns w e (w.apply op e) := fun returns =>
      returns.called.elim stop fun called => await called.1
    by_cases giveUp : e = .giveUpStop
    · subst giveUp
      exact stays rfl uncalled
    · exact stays (stops_apply op w e stop await giveUp).2 uncalled

/-- As long as none was given up, the run remembers whether a stop has returned. -/
theorem stopped_iff (kept : (play op config setting events).forsaken = false) :
    (play op config setting events).stopped = true ↔ HasReturned op config setting events := by
  induction events using List.reverseRecOn with
  | nil =>
    refine iff_of_false Bool.false_ne_true ?_
    rintro ⟨before, e, after, split, -⟩
    cases before <;> cases split
  | append_singleton events e ih =>
    rw [play_concat] at kept ⊢
    rw [stopped_apply kept, ih (forsaken_of_apply kept), hasReturned_concat]

/-! ## At rest -/

/-- Whoever does not wait for the worker tells the reporter to end. -/
theorem attended_beginStop {p : Processor ι σ α} (idle : p.stage ≠ .launched) (s : Setting S) :
    (p.beginStop s).2.1.reporterAttended = false := by
  cases hs : p.stage with
  | launched => exact absurd hs idle
  | fresh =>
    obtain ⟨_, _, he, -⟩ := beginStop_fresh hs s
    rw [he]
  | released | dropped =>
    obtain ⟨_, _, he, -⟩ := beginStop_later (p := p) (by simp [hs]) s
    rw [he]

/-- Nobody has to wait for the reporter again, unless the processor is started. -/
theorem attended_apply (op : Operation S (Item ι) σ α) (h : w.processor.reporterAttended = false)
    (idle : e = .start → w.processor.stage ≠ .fresh) :
    (w.apply op e).processor.reporterAttended = false := by
  have m := Happened.of_apply op w e
  generalize w.apply op e = w' at m ⊢
  cases m with
  | started fresh => exact absurd fresh (idle rfl)
  | stopped =>
    rw [processor_stop]
    by_cases launched : w.processor.stage = .launched
    · rw [beginStop_launched launched]
      exact h
    · exact attended_beginStop launched w.setting
  | proceeded _ hn =>
    rw [processor_proceedStop]
    rcases continueStop_eq_some hn with ⟨-, -, -, hp⟩ | ⟨-, -, hp⟩ <;> rw [hp]
    exact h
  | worked worked _ => cases worked <;> exact h
  | ignored _ | admitted _ _ | refused _ | gaveUp | aborted | claimed _ | read _ _ | unread _
  | reported _ _ | passed d | around setting => exact h

/-- A stop has left nothing that another would have to wait for. -/
structure Still (w : World S ι σ α) : Prop where
  spent : Spent w.processor
  attended : w.processor.reporterAttended = false
  stopping : w.stopping = none
  kept : w.forsaken = false

theorem releaseReporter_at_once {p : Processor ι σ α} (attended : p.reporterAttended = false)
    (s : Setting S) : (p.releaseReporter s).1 = .nothing := by
  simp only [releaseReporter, attended, Bool.false_and, Bool.false_eq_true, if_false]

/-- A stop returns at once if it has to wait neither for the worker nor for the reporter. -/
theorem beginStop_at_once {p : Processor ι σ α} (idle : p.stage ≠ .launched)
    (attended : p.reporterAttended = false) (s : Setting S) : (p.beginStop s).1 = .nothing := by
  cases hs : p.stage with
  | launched => exact absurd hs idle
  | fresh =>
    simp only [beginStop, hs, answerAllUnstarted]
    refine releaseReporter_at_once ?_ _
    obtain ⟨_, _, answered⟩ :=
      foldl_answerUnstarted p.input { p with stage := .fresh, closing := true }
    rw [answered]
    exact attended
  | released | dropped =>
    simp only [beginStop, hs]
    exact releaseReporter_at_once attended s

theorem beginStop_of_spent {p : Processor ι σ α} (h : Spent p) (attended : p.reporterAttended = false)
    (s : Setting S) : (p.beginStop s).2.1 = p := by
  obtain ⟨stopping, s', he, -⟩ := beginStop_later (.inl h.stage) s
  rw [he, ← h.closing, ← attended]

namespace Still

theorem stop (h : Still w) : w.stop.processor = w.processor ∧ w.stop.stopping = none ∧
    w.stop.forsaken = false := by
  have at_once := beginStop_at_once (by rw [h.spent.stage]; decide) h.attended w.setting
  refine ⟨by rw [processor_stop, beginStop_of_spent h.spent h.attended], ?_⟩
  unfold World.stop
  obtain ⟨forsaken, ⟨finished, -, -⟩ | ⟨-, waits, -⟩⟩ := proceedStop_cases
    { w.giveUpStop with books := w.books.watchStop w.processor } (w.processor.beginStop w.setting)
  · refine ⟨finished, forsaken.trans ?_⟩
    simp only [giveUpStop, h.kept, h.stopping, Option.isSome_none, Bool.or_false]
  · exact absurd at_once waits

theorem apply (h : Still w) (e : Event S ι) : Still (w.apply op e) := by
  have spent : Spent (w.apply op e).processor := spent_apply h.spent e
  have attended := attended_apply op (e := e) h.attended fun _ => by
    rw [h.spent.stage]
    decide
  by_cases stop : e = .stop
  · subst stop
    exact ⟨spent, attended, h.stop.2.1, h.stop.2.2⟩
  · refine ⟨spent, attended, stopping_eq_none_apply op stop h.stopping, ?_⟩
    by_cases await : e = .awaitStop
    · rw [await, World.apply, awaitStop, h.stopping]
      exact h.kept
    by_cases giveUp : e = .giveUpStop
    · subst giveUp
      simp only [World.apply, giveUpStop, h.kept, h.stopping, Option.isSome_none, Bool.or_false]
    · rw [(stops_apply op w e stop await giveUp).1, h.kept]

theorem play_append (h : Still (play op config setting events)) (after : List (Event S ι)) :
    Still (play op config setting (events ++ after)) := by
  induction after using List.reverseRecOn with
  | nil => rwa [List.append_nil]
  | append_singleton mid e ih =>
    rw [← List.append_assoc, play_concat]
    exact ih.apply e

end Still

/-- How far stops have come: a released processor is being stopped or was, and once a stop has
returned nothing is left to wait for. -/
structure Tidy (w : World S ι σ α) : Prop where
  released : w.processor.stage = .released →
    w.stopping ≠ none ∨ w.forsaken = true ∨ w.stopped = true
  fresh : w.processor.stage = .fresh → w.processor.reporterAttended = false
  relieved : w.stopping = some .reporter → w.processor.reporterAttended = false
  stopped : w.stopped = true → Still w

namespace Tidy

theorem proceed {v : World S ι σ α} {next : Stopping × Processor ι σ α × Setting S}
    (orderly : Orderly (v.proceedStop next)) (still : v.stopped = true → Still (v.proceedStop next))
    (released : (v.proceedStop next).processor.stage ≠ .fresh)
    (relieved : next.1 ≠ .worker → next.2.1.reporterAttended = false) : Tidy (v.proceedStop next) := by
  obtain ⟨forsaken, ⟨finished, nothing, stopped⟩ | ⟨waits, -, stopped⟩⟩ := v.proceedStop_cases next
  · refine ⟨fun _ => .inr ?_, fun fresh => absurd fresh released, fun awaits => ?_, fun hs => ?_⟩
    · rw [forsaken, stopped]
      cases v.forsaken <;> simp
    · rw [finished] at awaits
      cases awaits
    · cases before : v.stopped with
      | true => exact still before
      | false =>
        have kept : v.forsaken = false := by simpa [stopped, before] using hs
        refine ⟨orderly.stopped hs, ?_, finished, forsaken.trans kept⟩
        rw [processor_proceedStop]
        exact relieved (by rw [nothing]; decide)
  · refine ⟨fun _ => .inl (by rw [waits]; simp), fun fresh => absurd fresh released, fun awaits => ?_,
      fun hs => still (stopped ▸ hs)⟩
    rw [waits] at awaits
    rw [processor_proceedStop]
    exact relieved (by rw [Option.some.inj awaits]; decide)

theorem apply (h : Tidy w) (orderly : Orderly w) (e : Event S ι) : Tidy (w.apply op e) := by
  have next : Orderly (w.apply op e) := orderly.apply e
  have still (stopped : w.stopped = true) : Still (w.apply op e) := (h.stopped stopped).apply e
  by_cases stop : e = .stop
  · subst stop
    refine .proceed next still (fun fresh => ?_) fun other => ?_
    · have moved : (w.apply op .stop).processor.stage = _ := (moves_apply .stop).1
      rw [Stage.next, if_neg orderly.sound.kept] at moved
      cases moved.symm.trans fresh
    · refine attended_beginStop (fun launched => other ?_) w.setting
      rw [beginStop_launched launched]
  by_cases await : e = .awaitStop
  · subst await
    cases hn : w.stopping.bind (w.processor.continueStop w.setting) with
    | none =>
      have he : w.apply op .awaitStop = w := by simp only [World.apply, awaitStop, hn]
      rw [he]
      exact h
    | some goes =>
      have he : w.apply op .awaitStop = w.proceedStop goes := by simp only [World.apply, awaitStop, hn]
      rw [he] at next still ⊢
      obtain ⟨stopping, hs, hn⟩ := Option.bind_eq_some_iff.1 hn
      refine .proceed next still (fun fresh => ?_) fun _ => ?_
      · rw [← he, (moves_apply .awaitStop).1] at fresh
        have := (orderly.underway (hs ▸ rfl)).symm.trans (Stage.fresh_of_next fresh)
        cases this
      · rcases continueStop_eq_some hn with ⟨-, -, -, hp⟩ | ⟨rfl, -, hp⟩ <;> rw [hp]
        exact h.relieved hs
  by_cases giveUp : e = .giveUpStop
  · subst giveUp
    refine ⟨fun released => .inr ?_, h.fresh, fun awaits => (by cases awaits), still⟩
    rcases h.released released with underway | forsaken | stopped
    · exact .inl (by simp [World.apply, giveUpStop, Option.isSome_iff_ne_none.2 underway])
    · exact .inl (by simp [World.apply, giveUpStop, forsaken])
    · exact .inr stopped
  · obtain ⟨forsaken, stopped⟩ := stops_apply op w e stop await giveUp
    have stopping := stopping_apply op w e stop await giveUp
    refine ⟨fun released => ?_, fun fresh => ?_, fun awaits => ?_, fun hs => still (stopped ▸ hs)⟩
    · rw [(moves_apply e).1] at released
      rw [stopping, forsaken, stopped]
      exact h.released ((Stage.released_of_next released).resolve_right stop)
    · rw [(moves_apply e).1] at fresh
      have before := Stage.fresh_of_next fresh
      refine attended_apply op (h.fresh before) fun start => ?_
      rw [start, before] at fresh
      cases fresh
    · rw [stopping] at awaits
      refine attended_apply op (h.relieved awaits) fun _ => ?_
      rw [orderly.underway (awaits ▸ rfl)]
      decide

theorem play (op : Operation S (Item ι) σ α) (config : Config) (setting : Setting S)
    (events : List (Event S ι)) : Tidy (World.play op config setting events) := by
  induction events using List.reverseRecOn with
  | nil =>
    exact ⟨fun released => (by cases released), fun _ => rfl, fun awaits => (by cases awaits),
      fun stopped => (by cases stopped)⟩
  | append_singleton events e ih =>
    rw [play_concat]
    exact ih.apply (orderly_play op config setting events) e

end Tidy

/-! ## Processors that were never started -/

/-- The answer to an item that no worker took. -/
def unstarted (item : Item ι) : Result α := ⟨item.id, .error .notStarted, 0⟩

theorem output_foldl_answerUnstarted (items : List (Item ι)) {p : Processor ι σ α} (reader : p.reader ≠ .gone)
    (space : p.output.length + items.length ≤ p.config.capacity) :
    (items.foldl answerUnstarted p).output = p.output ++ items.map unstarted := by
  induction items generalizing p with
  | nil => simp
  | cons item items ih =>
    rw [List.length_cons] at space
    have room : (p.count .failure).hasRoom = true := hasRoom_eq_true_iff.2 ⟨reader, by
      show p.output.length < p.config.capacity
      omega⟩
    have first : p.answerUnstarted item = { p.count .failure with output := p.output ++ [unstarted item] } := by
      simp only [answerUnstarted, room, if_true]
      rfl
    rw [List.foldl_cons, first, ih, List.map_cons, List.append_assoc]
    · rfl
    · exact reader
    · show (p.output ++ [unstarted item]).length + items.length ≤ p.config.capacity
      rw [List.length_append, List.length_singleton]
      omega

/-- What a stop does to a processor that was never started. -/
structure AnswersAll (w w' : World S ι σ α) : Prop where
  /-- It returns at once. -/
  returned : w'.stopping = none
  /-- All items that were ever admitted are waiting, and it answers them in order. -/
  waiting : w.processor.input = w.books.admitted
  answered : w'.books.recorded = w.processor.input.map fun item => (item, unstarted item)
  input : w'.processor.input = []
  /-- The answers are what is in the output queue then, unless the reading end is gone. -/
  output : w'.processor.output =
    if w.processor.reader = .gone then [] else w.processor.input.map unstarted

theorem answersAll_stop (fresh : (play op config setting events).processor.stage = .fresh) :
    AnswersAll (play op config setting events) (play op config setting (events ++ [.stop])) := by
  have booked := booked_play op config setting events
  have later := booked_play op config setting (events ++ [.stop])
  have undecided := undecided_of_fresh op config setting events fresh
  have orderly := orderly_play op config setting events
  have attended := (Tidy.play op config setting events).fresh fresh
  rw [play_concat] at later ⊢
  generalize play op config setting events = w at fresh booked later undecided orderly attended ⊢
  have worker : w.processor.task? = none := by rw [task?, orderly.sound.fresh fresh, Option.map_none]
  have recorded : w.books.recorded = [] := by
    have results := booked.results
    rw [undecided, inHand, worker] at results
    exact List.map_eq_nil_iff.1 results
  have empty : w.processor.output = [] := by
    have delivered := booked.delivered
    simp only [Books.delivered, undecided, List.filter_nil, List.map_nil] at delivered
    exact (List.append_eq_nil_iff.1 delivered.symm).2
  have admitted := booked.items
  rw [recorded, inWork, worker] at admitted
  have begun := w.processor.stopBegun w.setting
  refine ⟨?_, admitted.symm, ?_, ?_, ?_⟩
  · have at_once := beginStop_at_once (by rw [fresh]; decide) attended w.setting
    obtain ⟨-, ⟨finished, -, -⟩ | ⟨-, waits, -⟩⟩ := proceedStop_cases
      { w.giveUpStop with books := w.books.watchStop w.processor } (w.processor.beginStop w.setting)
    · exact finished
    · exact absurd at_once waits
  · simp only [apply, stop, books_proceedStop, Books.watchStop, if_pos fresh, Books.recorded_watchAnswers,
      recorded, List.nil_append]
    rfl
  · rw [apply, processor_stop, begun.answered fresh]
  · by_cases gone : w.processor.reader = .gone
    · rw [if_pos gone]
      refine later.gone ?_
      rw [apply, processor_stop, begun.reader, gone]
    · obtain ⟨_, _, he, -⟩ := beginStop_fresh fresh w.setting
      rw [if_neg gone, apply, processor_stop, he]
      have answers := output_foldl_answerUnstarted w.processor.input
        (p := { w.processor with closing := true }) gone (by
          show w.processor.output.length + _ ≤ w.processor.config.capacity
          rw [empty, List.length_nil, Nat.zero_add]
          exact booked.waiting_le)
      rw [show ({ w.processor with closing := true } : Processor ι σ α).output = [] from empty,
        List.nil_append] at answers
      exact answers

/-! ## All runs -/

/-- What holds of a processor at rest: it cannot be started or given items, and neither a stop nor
an abort finds anything to do. -/
structure Retired (op : Operation S (Item ι) σ α) (w : World S ι σ α) : Prop where
  start : w.processor.start = .error (.plain "processor already stopped; create a new one")
  submit : ∀ id payload now (setting : Setting S),
    (w.processor.submit id payload now setting).1 = false
  depth : w.processor.depth = 0
  stop : (w.apply op .stop).processor = w.processor ∧ (w.apply op .stop).stopping = none
  abort : (w.apply op .abort).processor = w.processor
  /-- Submits are counted as refused, and nothing else is counted any more. -/
  counters : ∀ e, (w.apply op e).processor.counters =
    if e.isSubmit then w.processor.counters.record .rejected else w.processor.counters
  /-- Only the reader takes anything from the output queue. -/
  output : ∀ e, e ≠ .read → e ≠ .dropReader → (w.apply op e).processor.output = w.processor.output

theorem Still.retired (h : Still w) : Retired op w where
  start := by simp only [Processor.start, h.spent.stage]
  submit id payload now setting := by simp only [Processor.submit, h.spent.closing, if_true]
  depth := by rw [depth, h.spent.input, List.length_nil]
  stop := ⟨h.stop.1, h.stop.2.1⟩
  abort := by simp only [World.apply, Processor.abort, ← h.spent.closing]
  counters e := (rests_apply op h.spent e).counters
  output e := (rests_apply op h.spent e).kept

/-- What holds of the calls of the owner after some events that have led to `w`. Whoever waits for
each stop to its end calls nothing else while one is under way, and gives none up. -/
structure Lived (op : Operation S (Item ι) σ α) (config : Config) (setting : Setting S)
    (events : List (Event S ι)) (w : World S ι σ α) : Prop where
  /-- The first start launches a worker if no stop came before it, and nothing else ever does. -/
  launches : ∀ before e after, events = before ++ e :: after →
    (Launches op (play op config setting before) e ↔
      e = .start ∧ ∀ e' ∈ before, e' ≠ .start ∧ e' ≠ .stop)
  /-- So there is at most one. -/
  once : ∀ before e mid e' after, events = before ++ e :: (mid ++ e' :: after) →
    Launches op (play op config setting before) e →
      ¬ Launches op (play op config setting (before ++ e :: mid)) e'
  /-- Only the first call for the results gets them. -/
  results : w.processor.results.1 = true ↔ .results ∉ events
  /-- A start succeeds if no stop has returned, and else it fails. -/
  starts : w.stopping = none → w.forsaken = false →
    ((∃ p, w.processor.start = .ok p) ↔ ¬ HasReturned op config setting events)
  /-- Where there is a worker it changes nothing. -/
  again : w.processor.worker ≠ none → ∀ p, w.processor.start = .ok p → p = w.processor
  /-- Once a stop has returned the processor is at rest, whatever happens later. -/
  rests : HasReturned op config setting events → w.forsaken = false →
    ∀ later, Retired op (play op config setting (events ++ later))
  /-- If it was never started, also if it was aborted, its first stop answers all items. -/
  unstarted : (∀ e ∈ events, e ≠ .start ∧ e ≠ .stop) →
    AnswersAll w (play op config setting (events ++ [.stop]))

/-- **The life of a processor**, in whatever order its owner calls what. -/
theorem play_lived (op : Operation S (Item ι) σ α) (config : Config) (setting : Setting S)
    (events : List (Event S ι)) : Lived op config setting events (play op config setting events) := by
  have launches (before : List (Event S ι)) (e : Event S ι) :
      Launches op (play op config setting before) e ↔
        e = .start ∧ ∀ e' ∈ before, e' ≠ .start ∧ e' ≠ .stop := by
    rw [launches_iff (orderly_play op config setting before).sound, stage_play, Stage.foldl_next_eq_fresh]
  have tidy := Tidy.play op config setting events
  have orderly := orderly_play op config setting events
  refine
    { launches := fun before e _ _ => launches before e
      once := fun before e mid e' _ _ first second => ?_
      results := ?_
      starts := fun idle kept => ?_
      again := fun manned p started => ?_
      rests := fun returned kept later => ?_
      unstarted := fun calls => answersAll_stop ?_ }
  · obtain ⟨rfl, -⟩ := (launches before e).1 first
    obtain ⟨-, none_before⟩ := (launches _ e').1 second
    exact (none_before .start (List.mem_append_right _ List.mem_cons_self)).1 rfl
  · rw [← Reader.foldl_next_eq_unclaimed, ← reader_play op config setting events]
    unfold Processor.results
    cases (play op config setting events).processor.reader <;> simp
  · rw [← stopped_iff kept]
    cases hs : (play op config setting events).processor.stage with
    | fresh | launched =>
      refine iff_of_true (by simp [Processor.start, hs]) fun stopped => ?_
      have := (orderly.stopped stopped).stage
      rw [hs] at this
      cases this
    | released =>
      have stopped : (play op config setting events).stopped = true := by
        rcases tidy.released hs with underway | forsaken | stopped
        · exact absurd idle underway
        · rw [kept] at forsaken
          cases forsaken
        · exact stopped
      exact iff_of_false (by simp [Processor.start, hs]) (not_not.2 stopped)
    | dropped => exact absurd hs orderly.sound.kept
  · unfold Processor.start at started
    split at started
    · cases started
      rfl
    · rename_i fresh
      exact absurd (orderly.sound.fresh fresh) manned
    · cases started
    · cases started
  · exact ((tidy.stopped ((stopped_iff kept).2 returned)).play_append later).retired
  · rw [stage_play]
    exact Stage.foldl_next_eq_fresh.2 calls

end World

end CallGuard.Processor
