/-
What counts as a timeout. The work on an item times out when the item's own deadline has passed
before the work ended and the item was not cancelled. Each such item is counted. But the count goes
by what the failure carries, so that an item is counted, too, whose work ended in time with a
failure of the operation's own that carries the end of some other deadline (`Ending.feigned`).
-/
import CallGuard.Proofs.Processor.Endings

namespace CallGuard.Processor

variable {S ι σ α : Type}

namespace Ending

/-- Whether the item's own deadline had passed by then. -/
def overdue (config : Config) (e : Ending ι α) : Bool :=
  (Instant.after? e.order.started config.itemTimeout).any (· ≤ e.instant)

/-- Whether the work ran into the item's own deadline. Cancellation outranks it. -/
def timedOut (config : Config) (e : Ending ι α) : Bool :=
  e.overdue config && e.scopeEnd != some .cancelled

/-- Whether the work ended by itself, with a failure that looks as if it had run into the deadline. -/
def feigned (e : Ending ι α) : Bool := e.scopeEnd.isNone && isTimeout (resultOf e.outcome)

variable {config : Config} {last : Option (Attempt ι α)} {e : Ending ι α}

theorem overdue_iff : e.overdue config = true ↔
    ∃ d, Instant.after? e.order.started config.itemTimeout = some d ∧ d ≤ e.instant := by
  simp only [overdue, Option.any_eq_true, decide_eq_true_eq]

section

variable (deadline : e.order.scope.deadline = Instant.after? e.order.started config.itemTimeout)

include deadline

theorem overdue_of_going (going : e.scopeEnd = none) : e.overdue config = false := by
  refine Bool.eq_false_iff.2 fun late => ?_
  obtain ⟨d, hd, reached⟩ := overdue_iff.1 late
  exact Nat.not_le_of_lt (Scope.lt_of_ended?_eq_none going (deadline.trans hd)) reached

theorem timedOut_iff : e.timedOut config = true ↔ e.scopeEnd = some .deadlineExceeded := by
  rw [timedOut, Bool.and_eq_true, bne_iff_ne]
  constructor
  · rintro ⟨late, alive⟩
    cases ended : e.scopeEnd with
    | none =>
      rw [overdue_of_going deadline ended] at late
      cases late
    | some reason =>
      cases reason with
      | cancelled => exact absurd ended alive
      | deadlineExceeded => rfl
  · intro ended
    refine ⟨?_, by rw [ended]; exact fun same => by cases same⟩
    cases Scope.ended?_eq_some_iff.1 ended with
    | @deadline d _ hd reached => exact overdue_iff.2 ⟨d, deadline.symm.trans hd, reached⟩

/-- **A failure is taken for a timeout** if the work has run into its deadline, or feigns it. -/
theorem Cause.isTimeout_eq (h : e.Cause config last) :
    isTimeout (resultOf e.outcome) = (e.timedOut config || e.feigned) := by
  cases ended : e.scopeEnd with
  | none =>
    have intime : e.timedOut config = false := by
      rw [timedOut, overdue_of_going deadline ended, Bool.false_and]
    rw [intime, feigned, ended]
    rfl
  | some reason =>
    have unfeigned : e.feigned = false := by rw [feigned, ended]; rfl
    have bare : e.outcome = .failure (.scope reason) := by
      cases h with
      | plain plain =>
        cases plain with
        | cut ended' same => exact same.trans (by rw [ended] at ended'; cases ended'; rfl)
        | returned going _ _ _ _ => rw [ended] at going; cases going
      | exhausted going _ _ _ _ _ _ _ => rw [ended] at going; cases going
    rw [unfeigned, Bool.or_false, bare]
    cases reason with
    | cancelled =>
      have alive : e.timedOut config ≠ true := fun h => by
        rw [(timedOut_iff deadline).1 h] at ended
        cases ended
      exact (Bool.eq_false_iff.2 alive).symm
    | deadlineExceeded => exact ((timedOut_iff deadline).2 ended).symm

end

end Ending

/-! ## The count of timeouts -/

namespace World

variable {op : Operation S (Item ι) σ α} {config : Config} {setting : Setting S}
  {events : List (Event S ι)} {ending : Ending ι α}

/-- The ends that are recorded so far. -/
def recordedEnds (op : Operation S (Item ι) σ α) (config : Config) (setting : Setting S)
    (events : List (Event S ι)) : List (Ending ι α) :=
  ((initial config setting).endings op events).take (play op config setting events).books.recorded.length

theorem answers_recordedEnds (manned : (play op config setting events).processor.worker ≠ none) :
    (recordedEnds op config setting events).map (fun e => answerOf e.record) =
      (play op config setting events).books.recorded.map answerOf := by
  have told := (told_play op config setting events).worked manned
  rw [List.map_map, List.map_append] at told
  rw [recordedEnds, List.map_take]
  refine (congrArg (List.take _) told).trans ?_
  rw [List.take_left' (List.length_map ..)]

theorem countP_isTimeout (op : Operation S (Item ι) σ α) (config : Config) (setting : Setting S)
    (events : List (Event S ι)) :
    (play op config setting events).books.recorded.countP (isTimeout ·.2.outcome) =
      (recordedEnds op config setting events).countP (fun e => e.timedOut config || e.feigned) := by
  have taken : ∀ e ∈ recordedEnds op config setting events,
      isTimeout (resultOf e.outcome) = (e.timedOut config || e.feigned) := fun e he => by
    obtain ⟨before, -, -, found⟩ := exists_of_mem_endings (List.mem_of_mem_take he)
    exact (cause_of_ending? found).isTimeout_eq (deadline_of_ending? found)
  cases hw : (play op config setting events).processor.worker with
  | none =>
    obtain ⟨none, unstarted⟩ := (told_play op config setting events).unworked hw
    rw [recordedEnds, none, List.take_nil, List.countP_nil]
    exact List.countP_eq_zero.2 fun r hr => by rw [unstarted r hr]; exact Bool.false_ne_true
  | some worker =>
    have answers := answers_recordedEnds (hw ▸ Option.some_ne_none worker)
    calc (play op config setting events).books.recorded.countP (isTimeout ·.2.outcome)
        = ((play op config setting events).books.recorded.map answerOf).countP (isTimeout ·.2) := by
          rw [List.countP_map]; rfl
      _ = (recordedEnds op config setting events).countP (fun e => isTimeout (resultOf e.outcome)) := by
          rw [← answers, List.countP_map]; rfl
      _ = _ := List.countP_congr fun e he => by rw [taken e he]

/-- What the count of timeouts tells of a run. -/
structure Counted (op : Operation S (Item ι) σ α) (config : Config) (setting : Setting S)
    (events : List (Event S ι)) : Prop where
  /-- The ends that are recorded are those of the items that are, in the same order. Without a worker
  there are none, and all items are answered alike. -/
  recorded : (play op config setting events).processor.worker ≠ none →
    (recordedEnds op config setting events).map (fun e => answerOf e.record) =
      (play op config setting events).books.recorded.map answerOf
  unworked : (play op config setting events).processor.worker = none →
    recordedEnds op config setting events = [] ∧
      ∀ r ∈ (play op config setting events).books.recorded, r.2.outcome = .error .notStarted
  /-- Each of them has its cause in the calls up to then. -/
  causes : ∀ e ∈ recordedEnds op config setting events, ∃ before after,
    events = before ++ .work :: after ∧ (play op config setting before).ending? op .work = some e ∧
      e.Cause config (latest (attempts op config setting (before ++ [.work]))
        (play op config setting before).books.recorded.length)
  /-- Work that has run into its deadline was cut short there, -/
  timedOut : ∀ e ∈ recordedEnds op config setting events,
    e.timedOut config = true ↔ e.scopeEnd = some .deadlineExceeded
  /-- and work that has ended by itself ended in time, whatever its failure looks like. -/
  inTime : ∀ e ∈ recordedEnds op config setting events, e.scopeEnd = none → e.overdue config = false
  /-- All that looks like a timeout is counted, -/
  counted : (play op config setting events).processor.counters.timedOut =
    Word.wrap ((recordedEnds op config setting events).countP fun e => e.timedOut config || e.feigned)
  /-- and only timeouts are, if nothing looks like one that is none. -/
  honest : (∀ e ∈ recordedEnds op config setting events, e.feigned = false) →
    (play op config setting events).processor.counters.timedOut =
      Word.wrap ((recordedEnds op config setting events).countP (·.timedOut config))
  failed : (play op config setting events).processor.counters.failed =
    Word.wrap ((play op config setting events).books.recorded.countP (!·.2.outcome.isOk))

/-- **What counts as a timeout.** Whatever the operation does, an item is counted if its work has
run into its own deadline, and if it has ended in time with a failure that looks like that. -/
theorem play_counted (op : Operation S (Item ι) σ α) (config : Config) (setting : Setting S)
    (events : List (Event S ι)) : Counted op config setting events := by
  have counters : (play op config setting events).processor.counters =
      (play op config setting events).books.counters :=
    Balanced.counted (booked_play op config setting events)
  have counted : (play op config setting events).processor.counters.timedOut = Word.wrap
      ((recordedEnds op config setting events).countP fun e => e.timedOut config || e.feigned) := by
    rw [counters, Books.counters, countP_isTimeout]
  have found {e : Ending ι α} (he : e ∈ recordedEnds op config setting events) :=
    exists_of_mem_endings (List.mem_of_mem_take he)
  refine
    { recorded := answers_recordedEnds
      unworked := fun hw => ?_
      causes := fun e he => ?_
      timedOut := fun e he => ?_
      inTime := fun e he going => ?_
      counted := counted
      honest := fun plain => ?_
      failed := by rw [counters]; rfl }
  · obtain ⟨none, unstarted⟩ := (told_play op config setting events).unworked hw
    exact ⟨by rw [recordedEnds, none, List.take_nil], unstarted⟩
  · obtain ⟨before, after, same, found⟩ := found he
    exact ⟨before, after, same, found, cause_of_ending? found⟩
  · obtain ⟨before, -, -, found⟩ := found he
    exact Ending.timedOut_iff (deadline_of_ending? found)
  · obtain ⟨before, -, -, found⟩ := found he
    exact Ending.overdue_of_going (deadline_of_ending? found) going
  · rw [counted]
    congr 1
    exact List.countP_congr fun e he => by rw [plain e he, Bool.or_false]

/-- An item fails within its time with the end of some other deadline, and is counted as a timeout
although its own deadline is seconds away. -/
theorem other_deadline_counted :
    let op : Operation Unit (Item Nat) (Scope × Activity Nat) Nat :=
      .scripted (fun _ _ => .sleep 5000000 (.finish (.failure (.scope .deadlineExceeded))))
        (fun _ _ s => s) (fun _ s => s)
    let config : Config :=
      ⟨1, Config.defaultItemTimeout, none, [], none, by decide, by decide, nofun, nofun⟩
    let events : List (Event Unit Nat) :=
      [.submit "a" 1, .start, .work, .work, .work, .pass 5000000, .work, .work]
    let ends := recordedEnds op config ⟨.empty, [], ()⟩ events
    ends.map (fun e => (e.order.item.id, e.instant, e.scopeEnd, e.overdue config)) =
        [("a", 5000000, none, false)] ∧
      (play op config ⟨.empty, [], ()⟩ events).processor.counters = ⟨1, 0, 0, 1, 1, 0⟩ ∧
      (play op config ⟨.empty, [], ()⟩ events).processor.counters.timedOut ≠
        ends.countP (·.overdue config) := by
  decide +kernel

end World

end CallGuard.Processor
