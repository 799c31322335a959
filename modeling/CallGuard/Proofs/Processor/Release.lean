/-
What it means that a stop has returned. Only the first stop of a launched processor
waits for the worker. If it is waited for to its end, every stop that returns, that one
and all later ones, leaves a processor whose worker is gone for good; if it is given up
midway, later stops return whatever the worker is at.
-/
import CallGuard.Proofs.Moments
import CallGuard.Proofs.Processor.Accounting
import CallGuard.Proofs.Processor.Discards

namespace CallGuard.Processor

variable {S ι σ α : Type}

theorem Stage.released_of_next {stage : Stage} {e : Event S ι} (h : stage.next e = .released) :
    stage = .released ∨ e = .stop := by
  cases e with
  | stop => exact .inr rfl
  | start =>
    simp only [Stage.next] at h
    split at h
    · cases h
    · exact .inl h
  | _ => exact .inl h

namespace World

variable {op : Operation S (Item ι) σ α} {config : Config} {setting : Setting S} {w w' : World S ι σ α}
  {e : Event S ι} {events : List (Event S ι)}

/-- A stop returns in an event that leads from `w` to `w'`: one was called or under way,
and none is any more. -/
structure Returns (w : World S ι σ α) (e : Event S ι) (w' : World S ι σ α) : Prop where
  called : e = .stop ∨ e = .awaitStop ∧ w.stopping ≠ none
  finished : w'.stopping = none

/-- A stop that waits for the worker is given up in an event. -/
def Deserts (w : World S ι σ α) (e : Event S ι) : Prop :=
  w.stopping = some .worker ∧ (e = .stop ∨ e = .giveUpStop)

/-- A stop that waited for the worker was given up in the course of a run. -/
def Deserted (op : Operation S (Item ι) σ α) (config : Config) (setting : Setting S)
    (events : List (Event S ι)) : Prop :=
  ∃ before e after, events = before ++ e :: after ∧ Deserts (play op config setting before) e

theorem deserted_concat : Deserted op config setting (events ++ [e]) ↔
    Deserted op config setting events ∨ Deserts (play op config setting events) e :=
  exists_split_concat

/-! ## Spent processors stay spent -/

/-- What an event still does to a processor that is spent: a submit is refused, results are
read or go away with the reading end, and nothing else changes but the reporter. -/
structure Rests (p : Processor ι σ α) (e : Event S ι) (p' : Processor ι σ α) : Prop where
  same : ∃ reader output counters reporter attended, p' = { p with
    reader := reader, output := output, counters := counters, reporter := reporter
    reporterAttended := attended }
  counters : p'.counters = if e.isSubmit then p.counters.record .rejected else p.counters
  output : p'.output <:+ p.output
  kept : e ≠ .read → e ≠ .dropReader → p'.output = p.output

theorem Rests.unchanged {p p' : Processor ι σ α} (other : e.isSubmit = false)
    (same : ∃ reader reporter attended, p' = { p with
      reader := reader, reporter := reporter, reporterAttended := attended }) : Rests p e p' := by
  obtain ⟨reader, reporter, attended, rfl⟩ := same
  refine ⟨⟨reader, p.output, p.counters, reporter, attended, rfl⟩, ?_, List.suffix_refl _, fun _ _ => rfl⟩
  rw [other]
  rfl

theorem rests_apply (op : Operation S (Item ι) σ α) (h : Spent w.processor) (e : Event S ι) :
    Rests w.processor e (w.apply op e).processor := by
  have idle (other : e.isSubmit = false) : Rests w.processor e w.processor :=
    .unchanged other ⟨_, _, _, rfl⟩
  have fewer {output : List (Result α)} {reader : Reader} (suffix : output <:+ w.processor.output)
      (he : e = .read ∨ e = .dropReader) :
      Rests w.processor e { w.processor with output := output, reader := reader } := by
    refine ⟨⟨_, _, _, _, _, rfl⟩, ?_, suffix, fun read drop => ?_⟩
    · rcases he with rfl | rfl <;> rfl
    · exact (he.elim read drop).elim
  have m := Happened.of_apply op w e
  generalize w.apply op e = w' at m ⊢
  cases m with
  | ignored impossible => exact idle impossible.isSubmit
  | admitted opened _ =>
    rw [h.closing] at opened
    cases opened
  | refused _ => exact ⟨⟨_, _, _, _, _, rfl⟩, rfl, List.suffix_refl _, fun _ _ => rfl⟩
  | started fresh =>
    rw [h.stage] at fresh
    cases fresh
  | stopped =>
    rw [processor_stop]
    obtain ⟨stopping, s', he, -⟩ := beginStop_later (.inl h.stage) w.setting
    rw [he, ← h.closing]
    exact .unchanged rfl ⟨_, _, _, rfl⟩
  | aborted =>
    rw [← h.closing]
    exact idle rfl
  | read _ output => exact fewer (output ▸ List.suffix_cons _ _) (.inl rfl)
  | unread _ => exact fewer List.nil_suffix (.inr rfl)
  | worked _ hs =>
    rw [h.workerStep] at hs
    cases hs
  | proceeded _ hn =>
    obtain ⟨attended, hp⟩ := processor_of_continueStop hn
    rw [processor_proceedStop, hp]
    exact .unchanged rfl ⟨_, _, _, rfl⟩
  | claimed _ | reported _ _ => exact .unchanged rfl ⟨_, _, _, rfl⟩
  | gaveUp | passed d | around setting => exact idle rfl

theorem spent_apply (h : Spent w.processor) (e : Event S ι) : Spent (w.apply op e).processor := by
  obtain ⟨reader, output, counters, reporter, attended, same⟩ := (rests_apply op h e).same
  rw [same]
  exact h.of_same rfl rfl rfl rfl

theorem decided_of_spent (h : Spent w.processor) (e : Event S ι) :
    (w.apply op e).books.decided = w.books.decided := by
  have none : w.decisions op e = [] := by
    cases e with
    | work => rcases task?_of_all_isStopped h.worker with ht | ht <;> simp only [decisions, ht]
    | stop => simp only [decisions, h.stage, reduceCtorEq, if_false]
    | _ => rfl
  rw [decided_apply, none, List.map_nil, List.append_nil]

theorem delivered_of_spent (h : Spent (play op config setting events).processor) (after : List (Event S ι)) :
    Spent (play op config setting (events ++ after)).processor ∧
      (play op config setting (events ++ after)).books.delivered =
        (play op config setting events).books.delivered := by
  induction after using List.reverseRecOn with
  | nil =>
    rw [List.append_nil]
    exact ⟨h, rfl⟩
  | append_singleton mid e ih =>
    rw [← List.append_assoc, play_concat]
    refine ⟨spent_apply ih.1 e, ?_⟩
    rw [← ih.2, Books.delivered, decided_of_spent ih.1]
    rfl

/-! ## Stops -/

/-- Only a first stop of a launched processor waits for the worker. -/
theorem stop_awaits_iff : w.stop.stopping = some .worker ↔ w.processor.stage = .launched := by
  have proceeded {w : World S ι σ α} {next : Stopping × Processor ι σ α × Setting S} :
      (w.proceedStop next).stopping = some .worker ↔ next.1 = .worker := by
    obtain ⟨stopping, p, setting⟩ := next
    cases stopping <;> simp [proceedStop]
  rw [stop, proceeded]
  cases hs : w.processor.stage with
  | launched =>
    rw [beginStop_launched hs]
    exact iff_of_true rfl rfl
  | fresh =>
    obtain ⟨stopping, s', he, other⟩ := beginStop_fresh hs w.setting
    rw [he]
    exact iff_of_false other (by decide)
  | released | dropped =>
    obtain ⟨stopping, s', he, other⟩ := beginStop_later (p := w.processor) (by simp [hs]) w.setting
    rw [he]
    exact iff_of_false other (by decide)

theorem spent_stop_of_fresh (sound : Sound w.processor) (fresh : w.processor.stage = .fresh) :
    Spent w.stop.processor := by
  have begun := w.processor.stopBegun w.setting
  rw [processor_stop]
  refine ⟨?_, begun.closing, begun.answered fresh, ?_⟩
  · rw [begun.stage, fresh]
    rfl
  · rw [begun.worker, sound.fresh fresh]
    rfl

theorem stopping_apply (op : Operation S (Item ι) σ α) (w : World S ι σ α) (e : Event S ι)
    (he : e ≠ .stop) (ha : e ≠ .awaitStop) (hg : e ≠ .giveUpStop) :
    (w.apply op e).stopping = w.stopping := by
  have m := Happened.of_apply op w e
  generalize w.apply op e = w' at m ⊢
  cases m with
  | stopped => exact absurd rfl he
  | proceeded => exact absurd rfl ha
  | gaveUp => exact absurd rfl hg
  | ignored _ | admitted _ _ | refused _ | started _ | aborted | claimed _ | read _ _ | unread _
  | worked _ _ | reported _ _ | passed d | around setting => rfl

theorem stopping_eq_none_apply (op : Operation S (Item ι) σ α) (he : e ≠ .stop) (h : w.stopping = none) :
    (w.apply op e).stopping = none := by
  by_cases looks : e = .awaitStop
  · rw [looks, apply, awaitStop, h]
    exact h
  · by_cases gives : e = .giveUpStop
    · rw [gives]
      rfl
    · rw [stopping_apply op w e he looks gives, h]

/-- A stop that waits for the worker waits on, until the worker has stopped. -/
theorem awaitStop_of_worker (sound : Sound w.processor) (stage : w.processor.stage = .released)
    (worker : w.processor.worker ≠ none) (awaits : w.stopping = some .worker) :
    w.awaitStop = w ∨ Spent w.awaitStop.processor := by
  unfold awaitStop
  split
  · rename_i next hn
    rw [awaits, Option.bind_some] at hn
    rcases continueStop_eq_some hn with ⟨-, stopped, -, hp⟩ | ⟨other, -⟩
    · refine .inr ?_
      rw [processor_proceedStop, hp]
      exact (sound.spent stage worker stopped).of_same rfl rfl rfl rfl
    · cases other
  · exact .inl rfl

/-- Once a processor was stopped, a stop waits for its worker or nothing is left to wait
for, as long as no stop is given up while it waits for the worker. -/
theorem awaits_or_spent (faithful : ¬ Deserted op config setting events)
    (released : (play op config setting events).processor.stage = .released) :
    (play op config setting events).stopping = some .worker ∨
      Spent (play op config setting events).processor := by
  induction events using List.reverseRecOn with
  | nil => cases released
  | append_singleton events e ih =>
    rw [deserted_concat, not_or] at faithful
    have orderly := orderly_play op config setting events
    rw [play_concat] at released ⊢
    by_cases before : (play op config setting events).processor.stage = .released
    · rcases ih faithful.1 before with awaits | spent
      · by_cases looks : e = .awaitStop
        · subst looks
          rcases awaitStop_of_worker orderly.sound before (orderly.awaited awaits) awaits with same | spent
          · exact .inl ((congrArg World.stopping same).trans awaits)
          · exact .inr spent
        · have stays (stop) (giveUp) := stopping_apply op (play op config setting events) e stop looks giveUp
          refine .inl ((stays (fun he => ?_) fun he => ?_).trans awaits)
          · exact faithful.2 ⟨awaits, .inl he⟩
          · exact faithful.2 ⟨awaits, .inr he⟩
      · exact .inr (spent_apply spent e)
    · -- The processor was stopped just now, for the first time.
      rw [(moves_apply e).1] at released
      rcases Stage.released_of_next released with old | rfl
      · exact absurd old before
      · cases hs : (play op config setting events).processor.stage with
        | fresh => exact .inr (spent_stop_of_fresh orderly.sound hs)
        | launched => exact .inl (stop_awaits_iff.2 hs)
        | released => exact absurd hs before
        | dropped => exact absurd hs orderly.sound.kept

/-- What holds after a run from which on the worker is gone for good, whatever happens
later. -/
structure Final (op : Operation S (Item ι) σ α) (config : Config) (setting : Setting S)
    (events : List (Event S ι)) : Prop where
  /-- The worker has stopped, if there ever was one, and no item waits or is with it. -/
  exited : (play op config setting events).processor.worker.all (·.isStopped) = true
  input : (play op config setting events).processor.input = []
  inWork : (play op config setting events).processor.inWork = []
  inHand : (play op config setting events).processor.inHand = []
  /-- Every submitted item has been counted, if the counters have not started over. -/
  answered : events.countP (·.isSubmit) < Word.count →
    (play op config setting events).processor.counters.succeeded +
        (play op config setting events).processor.counters.failed =
      (play op config setting events).processor.counters.submitted
  /-- Whatever happens later, nothing more is put into the output queue, and the worker
  does nothing more. -/
  silent : ∀ later, (play op config setting (events ++ later)).books.delivered =
      (play op config setting events).books.delivered ∧
    (play op config setting (events ++ later)).processor.worker.all (·.isStopped) = true

theorem final_of_spent (h : Spent (play op config setting events).processor) :
    Final op config setting events where
  exited := h.worker
  input := h.input
  inWork := h.inWork
  inHand := h.inHand
  answered few := by
    rw [← asked_play op config setting] at few
    exact (((booked_play op config setting events).accounted few).settled h).answered
  silent later := by
    obtain ⟨spent, delivered⟩ := delivered_of_spent h later
    exact ⟨delivered, spent.worker⟩

/-- What holds of stops in a run. -/
structure Releases (op : Operation S (Item ι) σ α) (config : Config) (setting : Setting S)
    (events : List (Event S ι)) (w : World S ι σ α) : Prop where
  /-- Unless a stop was given up while it waited for the worker, a stop returns only when
  the worker is gone for good. -/
  returned : ∀ e, Returns w e (w.apply op e) → ¬ Deserted op config setting (events ++ [e]) →
    Final op config setting (events ++ [e])
  /-- Only the first stop of a launched processor waits for the worker, -/
  first : (w.apply op .stop).stopping = some .worker ↔ w.processor.stage = .launched
  /-- until the worker has stopped. -/
  awaits : w.stopping = some .worker →
    w.apply op .awaitStop = w ∨ (w.apply op .awaitStop).processor.worker.all (·.isStopped) = true
  /-- All others leave the worker as it is. -/
  careless : w.processor.stage = .released → (w.apply op .stop).stopping ≠ some .worker ∧
    (w.apply op .stop).processor.worker = w.processor.worker ∧
    (w.apply op .stop).processor.input = w.processor.input

/-- **Stops.** As long as no stop is given up while it waits for the worker, every stop
that returns leaves a processor whose worker is gone for good; and no later stop waits for
the worker. -/
theorem play_released (op : Operation S (Item ι) σ α) (config : Config) (setting : Setting S)
    (events : List (Event S ι)) :
    Releases op config setting events (play op config setting events) := by
  have orderly := orderly_play op config setting events
  refine ⟨fun e returns faithful => ?_, stop_awaits_iff, fun awaits => ?_, fun released => ?_⟩
  · have released : (play op config setting (events ++ [e])).processor.stage = .released := by
      rw [play_concat, (moves_apply e).1]
      rcases returns.called with rfl | ⟨rfl, underway⟩
      · exact if_neg orderly.sound.kept
      · exact orderly.underway (Option.isSome_iff_ne_none.2 underway)
    refine final_of_spent ((awaits_or_spent faithful released).resolve_left ?_)
    rw [play_concat, returns.finished]
    exact nofun
  · have stage := orderly.underway (awaits ▸ rfl)
    rcases awaitStop_of_worker orderly.sound stage (orderly.awaited awaits) awaits with same | spent
    · exact .inl same
    · exact .inr spent.worker
  · obtain ⟨stopping, s', he, -⟩ :=
      beginStop_later (.inl released) (play op config setting events).setting
    refine ⟨fun awaits => ?_, ?_⟩
    · have launched := stop_awaits_iff.1 awaits
      rw [released] at launched
      cases launched
    · rw [apply, processor_stop, he]
      exact ⟨rfl, rfl⟩

/-- It does not hold of every stop that returns: one that follows a stop which was given
up returns at once. Its item is still in work and not counted, and the result is put into
the output queue later. -/
theorem deserted_stop_returns :
    let op : Operation Unit (Item Nat) (Scope × Activity Nat) Nat :=
      .scripted (fun _ _ => .sleep 50 (.finish (.value 7))) (fun _ _ s => s) (fun _ s => s)
    let config : Config := ⟨1, 100, none, [], none, by decide, by decide, nofun, nofun⟩
    let events : List (Event Unit Nat) :=
      [.results, .start, .submit "a" 1, .work, .work, .work, .stop, .pass 10, .giveUpStop]
    let later : List (Event Unit Nat) := [.pass 40, .work, .work, .work]
    let run := play op config ⟨.empty, [], ()⟩
    Returns (run events) .stop (run (events ++ [.stop])) ∧
      (run (events ++ [.stop])).processor.inWork.map (·.id) = ["a"] ∧
      (run (events ++ [.stop])).processor.counters = ⟨1, 0, 0, 0, 0, 0⟩ ∧
      (run (events ++ [.stop])).books.delivered.map (·.id) = [] ∧
      (run (events ++ [.stop] ++ later)).books.delivered.map (·.id) = ["a"] := by
  intro op config events later run
  exact ⟨⟨.inl rfl, by decide +kernel⟩, by decide +kernel, by decide +kernel, by decide +kernel,
    by decide +kernel⟩

end World

end CallGuard.Processor
