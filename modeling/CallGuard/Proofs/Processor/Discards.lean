/-
What becomes of results. Of each it is decided once, in a single step, whether it is
delivered or discarded (`Decision`). It is discarded exactly if nobody can read it any
more, or if a stop or an abort was called and the output queue is full. As long as
neither is so, the worker waits for room.
-/
import CallGuard.Proofs.Processor.Conservation

namespace CallGuard.Processor

variable {S ι σ α : Type}

/-- It is decided what becomes of a result, in a change of the processor. -/
structure Decision (ι σ α : Type) where
  result : Result α
  before : Processor ι σ α
  after : Processor ι σ α

namespace Decision

/-- The result is put into the output queue. -/
def Delivered (d : Decision ι σ α) : Prop :=
  d.after.output = d.before.output ++ [d.result] ∧
    d.after.counters.discarded = d.before.counters.discarded

/-- The result is put nowhere, and counted. -/
def Discarded (d : Decision ι σ α) : Prop :=
  d.after.output = d.before.output ∧
    d.after.counters.discarded = Counters.next d.before.counters.discarded

/-- Whether the result was put into the output queue. -/
def grew (d : Decision ι σ α) : Bool := decide (d.before.output.length < d.after.output.length)

theorem Delivered.grew {d : Decision ι σ α} (h : d.Delivered) : d.grew = true := by
  simp only [Decision.grew, h.1, List.length_append, List.length_singleton, decide_eq_true_eq]
  exact Nat.lt_succ_self _

theorem Discarded.grew {d : Decision ι σ α} (h : d.Discarded) : d.grew = false := by
  simp only [Decision.grew, h.1, Nat.lt_irrefl, decide_false]

theorem Delivered.not_discarded {d : Decision ι σ α} (h : d.Delivered) : ¬ d.Discarded := by
  intro hd
  have := h.grew
  rw [hd.grew] at this
  cases this

/-- How a decision is made: by whether there is room, and if there is none, not before
the reading end has gone or the processor closes. -/
inductive Made (d : Decision ι σ α) : Prop
  | room : d.before.hasRoom = true → d.Delivered → Made d
  | none : d.before.hasRoom = false → d.before.reader = .gone ∨ d.before.closing = true →
      d.Discarded → Made d

end Decision

theorem hasRoom_eq_true_iff {p : Processor ι σ α} :
    p.hasRoom = true ↔ p.reader ≠ .gone ∧ p.output.length < p.config.capacity := by
  simp only [hasRoom, Bool.and_eq_true, bne_iff_ne, decide_eq_true_eq]

theorem hasRoom_eq_false_iff {p : Processor ι σ α} (le : p.output.length ≤ p.config.capacity) :
    p.hasRoom = false ↔ p.reader = .gone ∨ p.output.length = p.config.capacity := by
  rw [← Bool.not_eq_true, hasRoom_eq_true_iff, not_and_or, not_not, Nat.not_lt]
  have full : p.config.capacity ≤ p.output.length ↔ p.output.length = p.config.capacity :=
    ⟨fun h => Nat.le_antisymm le h, fun h => Nat.le_of_eq h.symm⟩
  rw [full]

/-- **How it is decided**, in terms of what anybody can see. -/
theorem Decision.Made.iff {d : Decision ι σ α} (h : d.Made)
    (le : d.before.output.length ≤ d.before.config.capacity) :
    (d.Discarded ↔ d.before.reader = .gone ∨
        d.before.closing = true ∧ d.before.output.length = d.before.config.capacity) ∧
      (d.Delivered ↔ ¬ (d.before.reader = .gone ∨
        d.before.closing = true ∧ d.before.output.length = d.before.config.capacity)) := by
  cases h with
  | room hr hd =>
    obtain ⟨reader, space⟩ := hasRoom_eq_true_iff.1 hr
    have kept : ¬ (d.before.reader = .gone ∨
        d.before.closing = true ∧ d.before.output.length = d.before.config.capacity) := by
      rintro (hg | ⟨-, hf⟩)
      · exact reader hg
      · exact Nat.ne_of_lt space hf
    exact ⟨iff_of_false hd.not_discarded kept, iff_of_true hd kept⟩
  | none hr hc hd =>
    have lost : d.before.reader = .gone ∨
        d.before.closing = true ∧ d.before.output.length = d.before.config.capacity := by
      rcases (hasRoom_eq_false_iff le).1 hr with hg | hf
      · exact .inl hg
      · exact hc.imp id fun hc => ⟨hc, hf⟩
    have undelivered : ¬ d.Delivered := fun h => h.not_discarded hd
    exact ⟨iff_of_true hd lost, iff_of_false undelivered (not_not.2 lost)⟩

/-- The decisions when items are answered without a worker, one after the other. -/
def answerDecisions : Processor ι σ α → List (Item ι) → List (Decision ι σ α)
  | _, [] => []
  | p, item :: items =>
    ⟨⟨item.id, .error .notStarted, 0⟩, p, p.answerUnstarted item⟩ ::
      answerDecisions (p.answerUnstarted item) items

theorem results_answerDecisions (p : Processor ι σ α) (items : List (Item ι)) :
    (answerDecisions p items).map (·.result) =
      items.map fun item => ⟨item.id, .error .notStarted, 0⟩ := by
  induction items generalizing p with
  | nil => rfl
  | cons item items ih => rw [answerDecisions, List.map_cons, List.map_cons, ih]

namespace World

/-- The decisions made in an event, in order. -/
def decisions (op : Operation S (Item ι) σ α) (w : World S ι σ α) :
    Event S ι → List (Decision ι σ α)
  | .work =>
    match w.processor.task?, w.processor.workerStep op w.now w.setting with
    | some (.delivering result), some (p, _) => [⟨result, w.processor, p⟩]
    | _, _ => []
  | .stop =>
    if w.processor.stage = .fresh then
      answerDecisions { w.processor with closing := true } w.processor.input
    else []
  | _ => []

end World

/-! ## Every decision is made like that -/

theorem made_answer {p : Processor ι σ α} (closing : p.closing = true) (item : Item ι) :
    Decision.Made ⟨⟨item.id, .error .notStarted, 0⟩, p, p.answerUnstarted item⟩ := by
  have same : (p.count .failure).hasRoom = p.hasRoom := rfl
  unfold answerUnstarted
  dsimp only
  rw [same]
  cases hr : p.hasRoom with
  | true => exact .room hr ⟨rfl, rfl⟩
  | false => exact .none hr (.inr closing) ⟨rfl, rfl⟩

theorem answerUnstarted_steady (p : Processor ι σ α) (item : Item ι) :
    (p.answerUnstarted item).config = p.config ∧ (p.answerUnstarted item).closing = p.closing ∧
      (p.answerUnstarted item).reader = p.reader ∧
      (p.output.length ≤ p.config.capacity →
        (p.answerUnstarted item).output.length ≤ p.config.capacity) := by
  have same : (p.count .failure).hasRoom = p.hasRoom := rfl
  unfold answerUnstarted
  dsimp only
  rw [same]
  cases hr : p.hasRoom with
  | true =>
    obtain ⟨-, space⟩ := hasRoom_eq_true_iff.1 hr
    refine ⟨rfl, rfl, rfl, fun _ => ?_⟩
    simp only [if_true, List.length_append, List.length_singleton]
    exact space
  | false => exact ⟨rfl, rfl, rfl, fun le => le⟩

/-- A decision was made in a processor with these settings, which is closing or not,
and has a reader or not. -/
structure Decision.Within (d : Decision ι σ α) (p : Processor ι σ α) (closing : Bool) : Prop where
  made : d.Made
  output_le : d.before.output.length ≤ d.before.config.capacity
  config : d.before.config = p.config
  closing : d.before.closing = closing
  reader : d.before.reader = p.reader

theorem within_answers {p : Processor ι σ α} (closing : p.closing = true)
    (le : p.output.length ≤ p.config.capacity) (items : List (Item ι)) :
    ∀ d ∈ answerDecisions p items, d.Within p true := by
  induction items generalizing p with
  | nil =>
    intro d hd
    exact absurd hd List.not_mem_nil
  | cons item items ih =>
    intro d hd
    obtain ⟨hconfig, hclosing, hreader, hle⟩ := p.answerUnstarted_steady item
    rw [answerDecisions, List.mem_cons] at hd
    rcases hd with hd | hd
    · subst hd
      exact ⟨made_answer closing item, le, rfl, closing, rfl⟩
    · have h := ih (hclosing.trans closing) (by rw [hconfig]; exact hle le) d hd
      exact ⟨h.made, h.output_le, h.config.trans hconfig, h.closing, h.reader.trans hreader⟩

theorem made_worked {op : Operation S (Item ι) σ α} {now : Nat} {p p' : Processor ι σ α}
    {s s' : Setting S} {result : Result α} (h : Worked op now p s p' s')
    (ht : p.task? = some (.delivering result)) :
    Decision.Made ⟨result, p, p'⟩ ∧ p'.task? = some .idle := by
  cases h with
  | began hw | turned hw _ | took hw _ _ | halted hw _ | tried hw _ _ | concluded hw _ =>
    rw [task?_of_worker hw] at ht
    cases ht
  | delivered hw hr =>
    rw [task?_of_worker hw] at ht
    cases ht
    exact ⟨.room hr ⟨rfl, rfl⟩, rfl⟩
  | discarded hw hr hc =>
    rw [task?_of_worker hw] at ht
    cases ht
    exact ⟨.none hr hc ⟨rfl, rfl⟩, rfl⟩

namespace World

variable {op : Operation S (Item ι) σ α} {w : World S ι σ α}

theorem decisions_work_of_task {result : Result α}
    (ht : w.processor.task? = some (.delivering result)) : w.decisions op .work =
      (w.processor.workerStep op w.now w.setting).elim [] fun r => [⟨result, w.processor, r.1⟩] := by
  simp only [decisions, ht]
  cases w.processor.workerStep op w.now w.setting <;> rfl

theorem mem_decisions_work {d : Decision ι σ α} (hd : d ∈ w.decisions op .work) :
    ∃ setting, w.processor.task? = some (.delivering d.result) ∧ d.before = w.processor ∧
      w.processor.workerStep op w.now w.setting = some (d.after, setting) := by
  simp only [decisions] at hd
  split at hd
  · rename_i result p setting ht hs
    obtain rfl := List.mem_singleton.1 hd
    exact ⟨setting, ht, rfl, hs⟩
  · cases hd

theorem within_decisions (booked : Booked w.processor w.books) {e : Event S ι} {d : Decision ι σ α}
    (hd : d ∈ w.decisions op e) : d.Within w.processor (w.processor.closing || e.closes) := by
  have le : w.processor.output.length ≤ w.processor.config.capacity := booked.output_le
  cases e with
  | work =>
    obtain ⟨setting, ht, hb, hs⟩ := mem_decisions_work hd
    obtain ⟨result, before, after⟩ := d
    obtain rfl : before = w.processor := hb
    obtain ⟨made, -⟩ := made_worked (Worked.of_workerStep hs) ht
    exact ⟨made, le, rfl, (Bool.or_false _).symm, rfl⟩
  | stop =>
    simp only [decisions] at hd
    split at hd
    · have h := within_answers (p := { w.processor with closing := true }) rfl le _ d hd
      exact ⟨h.made, h.output_le, h.config, h.closing.trans (Bool.or_true _).symm, h.reader⟩
    · cases hd
  | _ => cases hd

end World

/-! ## The books tell of every decision -/

/-- What the books tell of a decision. -/
def Decision.entry (d : Decision ι σ α) : Result α × Bool := (d.result, d.grew)

namespace Books

theorem decided_watch {b : Books ι α} {p p' : Processor ι σ α}
    (h : ∀ result, p.task? ≠ some (.delivering result)) : (b.watch p p').decided = b.decided := by
  unfold watch
  split
  · rfl
  · rename_i result ht _
    exact absurd ht (h result)
  · rfl

theorem decided_watchAnswers (b : Books ι α) (p : Processor ι σ α) (items : List (Item ι)) :
    (b.watchAnswers p items).decided =
      b.decided ++ (answerDecisions p items).map Decision.entry := by
  induction items generalizing b p with
  | nil => simp only [watchAnswers, answerDecisions, List.map_nil, List.append_nil]
  | cons item items ih =>
    rw [watchAnswers, ih, answerDecisions, List.map_cons]
    simp only [watchAnswer, settle, record, List.append_assoc, List.singleton_append]
    rfl

end Books

namespace World

variable {op : Operation S (Item ι) σ α} {w : World S ι σ α}

theorem decided_work : (w.work op).books.decided =
    w.books.decided ++ (w.decisions op .work).map Decision.entry := by
  unfold work
  by_cases hd : ∃ result, w.processor.task? = some (.delivering result)
  · obtain ⟨result, ht⟩ := hd
    rw [decisions_work_of_task ht]
    cases hs : w.processor.workerStep op w.now w.setting with
    | none => simp only [Option.elim_none, List.map_nil, List.append_nil]
    | some r =>
      obtain ⟨-, idle⟩ := made_worked (Worked.of_workerStep hs) ht
      simp only [Option.elim_some, Books.watch, ht, idle, Books.settle]
      rfl
  · have undecided : ∀ result, w.processor.task? ≠ some (.delivering result) :=
      fun result ht => hd ⟨result, ht⟩
    have none : w.decisions op .work = [] := by
      simp only [decisions]
      split
      · rename_i result _ _ ht _
        exact absurd ht (undecided result)
      · rfl
    rw [none, List.map_nil, List.append_nil]
    cases w.processor.workerStep op w.now w.setting with
    | none => rfl
    | some r => exact Books.decided_watch undecided

theorem decided_stop : w.stop.books.decided =
    w.books.decided ++ (w.decisions op .stop).map Decision.entry := by
  simp only [stop, books_proceedStop, Books.watchStop, decisions]
  by_cases hs : w.processor.stage = .fresh
  · simp only [if_pos hs]
    exact Books.decided_watchAnswers _ _ _
  · simp only [if_neg hs, List.map_nil, List.append_nil]

/-- **No result is decided on but in a decision.** -/
theorem decided_apply (e : Event S ι) : (w.apply op e).books.decided =
    w.books.decided ++ (w.decisions op e).map Decision.entry := by
  by_cases hw : e = .work
  · subst hw
    exact decided_work
  by_cases hs : e = .stop
  · subst hs
    exact decided_stop
  -- Elsewhere no decision is made, and the books are the same or tell of something else.
  have none : w.decisions op e = [] := by cases e <;> first | rfl | contradiction
  rw [none, List.map_nil, List.append_nil]
  have m := Happened.of_apply op w e
  generalize w.apply op e = w' at m ⊢
  cases m with
  | worked => exact absurd rfl hw
  | stopped => exact absurd rfl hs
  | proceeded _ _ => rw [books_proceedStop]
  | ignored _ | admitted _ _ | refused _ | started _ | gaveUp | aborted | claimed _ | read _ _
  | unread _ | reported _ _ | passed d | around setting => rfl

end World

/-! ## Who holds the reading end -/

/-- The reading end is handed out once, and whoever has it may let go of it. -/
def Reader.next (reader : Reader) : Event S ι → Reader
  | .results => if reader = .unclaimed then .claimed else reader
  | .dropReader => if reader = .claimed then .gone else reader
  | _ => reader

theorem Reader.next_gone (e : Event S ι) : Reader.gone.next e = .gone := by
  cases e <;> rfl

/-- A processor is started once, and never after a stop. -/
def Stage.next (stage : Stage) : Event S ι → Stage
  | .start => if stage = .fresh then .launched else stage
  | .stop => if stage = .dropped then stage else .released
  | _ => stage

theorem Stage.fresh_of_next {stage : Stage} {e : Event S ι} (h : stage.next e = .fresh) :
    stage = .fresh := by
  cases stage with
  | fresh => rfl
  | launched | released | dropped => cases e <;> cases h

namespace World

variable {op : Operation S (Item ι) σ α} {w : World S ι σ α}

theorem moves_apply (e : Event S ι) :
    (w.apply op e).processor.stage = w.processor.stage.next e ∧
      (w.apply op e).processor.reader = w.processor.reader.next e := by
  have m := Happened.of_apply op w e
  generalize w.apply op e = w' at m ⊢
  cases m with
  | ignored impossible =>
    cases e with
    | start => exact ⟨(if_neg impossible).symm, rfl⟩
    | stop => exact impossible.elim
    | results | dropReader => exact ⟨rfl, (if_neg impossible).symm⟩
    | _ => exact ⟨rfl, rfl⟩
  | started fresh => exact ⟨(if_pos fresh).symm, rfl⟩
  | stopped =>
    have begun := w.processor.stopBegun w.setting
    rw [processor_stop]
    exact ⟨begun.stage, begun.reader⟩
  | proceeded _ hn =>
    obtain ⟨attended, hp⟩ := processor_of_continueStop hn
    rw [processor_proceedStop, hp]
    exact ⟨rfl, rfl⟩
  | claimed unclaimed => exact ⟨rfl, (if_pos unclaimed).symm⟩
  | unread claimed => exact ⟨rfl, (if_pos claimed).symm⟩
  | worked worked _ =>
    obtain ⟨-, hst, -, hr⟩ := worked.steady
    exact ⟨hst, hr⟩
  | admitted _ _ | refused _ | gaveUp | aborted | read _ _ | reported _ _ | passed d
  | around setting => exact ⟨rfl, rfl⟩

theorem reader_play (op : Operation S (Item ι) σ α) (config : Config) (setting : Setting S)
    (events : List (Event S ι)) : (play op config setting events).processor.reader =
      events.foldl Reader.next .unclaimed := by
  induction events using List.reverseRecOn with
  | nil => rfl
  | append_singleton events e ih =>
    rw [play_concat, (moves_apply e).2, ih, List.foldl_append, List.foldl_cons, List.foldl_nil]

theorem undecided_of_fresh (op : Operation S (Item ι) σ α) (config : Config) (setting : Setting S)
    (events : List (Event S ι)) (fresh : (play op config setting events).processor.stage = .fresh) :
    (play op config setting events).books.decided = [] := by
  induction events using List.reverseRecOn with
  | nil => rfl
  | append_singleton events e ih =>
    rw [play_concat, (moves_apply e).1] at fresh
    have before := Stage.fresh_of_next fresh
    have none : (play op config setting events).decisions op e = [] := by
      cases e with
      | work =>
        have worker := (orderly_play op config setting events).sound.fresh before
        simp only [decisions, task?, worker, Option.map_none]
      | stop =>
        rw [before] at fresh
        cases fresh
      | _ => rfl
    rw [play_concat, decided_apply, none, ih before, List.map_nil, List.append_nil]

end World

/-! ## Which results are discarded -/

/-- Nobody can read a result any more, or a stop or an abort was called and there is no
space for it. -/
def Lost (config : Config) (events : List (Event S ι)) (d : Decision ι σ α) : Prop :=
  events.foldl Reader.next .unclaimed = .gone ∨
    events.any (·.closes) = true ∧ d.before.output.length = config.capacity

instance (config : Config) (events : List (Event S ι)) (d : Decision ι σ α) :
    Decidable (Lost config events d) :=
  inferInstanceAs (Decidable (_ ∨ _ ∧ _))

theorem delivered_answers {p : Processor ι σ α} (closing : p.closing = true)
    (reader : p.reader ≠ .gone) (items : List (Item ι))
    (space : p.output.length + items.length ≤ p.config.capacity) :
    ∀ d ∈ answerDecisions p items, d.Delivered := by
  induction items generalizing p with
  | nil =>
    intro d hd
    exact absurd hd List.not_mem_nil
  | cons item items ih =>
    intro d hd
    rw [List.length_cons] at space
    have hr : p.hasRoom = true := hasRoom_eq_true_iff.2 ⟨reader, by omega⟩
    have first : Decision.Delivered ⟨⟨item.id, .error .notStarted, 0⟩, p, p.answerUnstarted item⟩ := by
      cases made_answer closing item with
      | room _ h => exact h
      | none h _ _ =>
        rw [hr] at h
        cases h
    rw [answerDecisions, List.mem_cons] at hd
    rcases hd with hd | hd
    · rw [hd]
      exact first
    · obtain ⟨hconfig, hclosing, hreader, -⟩ := p.answerUnstarted_steady item
      have longer : (p.answerUnstarted item).output.length = p.output.length + 1 := by
        rw [first.1, List.length_append, List.length_singleton]
      refine ih (hclosing.trans closing) (by rw [hreader]; exact reader) ?_ d hd
      rw [longer, hconfig]
      omega

/-- The worker waits exactly if there is a reader, no space, and no stop or abort. -/
theorem deliver_eq_none_iff {p : Processor ι σ α} (le : p.output.length ≤ p.config.capacity)
    (drained : Option Nat) (result : Result α) (s : Setting S) :
    p.deliver drained result s = none ↔
      p.reader ≠ .gone ∧ p.closing = false ∧ p.output.length = p.config.capacity := by
  unfold deliver
  cases hr : p.hasRoom with
  | true =>
    obtain ⟨-, space⟩ := hasRoom_eq_true_iff.1 hr
    simp only [if_true, reduceCtorEq, false_iff]
    rintro ⟨-, -, full⟩
    exact Nat.ne_of_lt space full
  | false =>
    have full := (hasRoom_eq_false_iff le).1 hr
    simp only [Bool.false_eq_true, if_false, ite_eq_right_iff, reduceCtorEq, imp_false, not_or,
      Bool.not_eq_true]
    constructor
    · rintro ⟨reader, closing⟩
      exact ⟨reader, closing, full.resolve_left reader⟩
    · rintro ⟨reader, closing, -⟩
      exact ⟨reader, closing⟩

namespace World

variable {op : Operation S (Item ι) σ α} {config : Config} {setting : Setting S}
  {before : List (Event S ι)} {e : Event S ι} {d : Decision ι σ α}

theorem next_of_mem_decisions {w : World S ι σ α} (hd : d ∈ w.decisions op e) (reader : Reader) :
    reader.next e = reader := by
  cases e with
  | work | stop => rfl
  | _ => exact absurd hd List.not_mem_nil

/-- **What is decided** of a result, after any run. -/
theorem decided_iff (hd : d ∈ (play op config setting before).decisions op e) :
    (d.Discarded ↔ Lost config (before ++ [e]) d) ∧
      (d.Delivered ↔ ¬ Lost config (before ++ [e]) d) := by
  have h := within_decisions (booked_play op config setting before) hd
  have capacity : d.before.config.capacity = config.capacity := by
    rw [h.config, config_play]
  have reader : (before ++ [e]).foldl Reader.next .unclaimed = d.before.reader := by
    rw [List.foldl_append, List.foldl_cons, List.foldl_nil, next_of_mem_decisions hd, h.reader,
      reader_play]
  have closing : (before ++ [e]).any (·.closes) = d.before.closing := by
    rw [h.closing, closing_play, List.any_append, List.any_cons, List.any_nil, Bool.or_false]
  unfold Lost
  rw [reader, closing, ← capacity]
  exact h.made.iff h.output_le

theorem grew_iff (hd : d ∈ (play op config setting before).decisions op e) :
    d.grew = !decide (Lost config (before ++ [e]) d) := by
  obtain ⟨discarded, delivered⟩ := decided_iff hd
  by_cases hl : Lost config (before ++ [e]) d
  · rw [(discarded.2 hl).grew, decide_eq_true hl, Bool.not_true]
  · rw [(delivered.2 hl).grew, decide_eq_false hl, Bool.not_false]

theorem discarded_apply : ((play op config setting before).apply op e).books.discarded =
    (play op config setting before).books.discarded ++
      (((play op config setting before).decisions op e).filter fun d =>
        Lost config (before ++ [e]) d).map (·.result) := by
  have new : (((play op config setting before).decisions op e).filter fun d =>
      Lost config (before ++ [e]) d) =
      ((play op config setting before).decisions op e).filter fun d => !d.grew := by
    refine List.filter_congr fun d hd => ?_
    rw [grew_iff hd, Bool.not_not]
  rw [Books.discarded, decided_apply, List.filter_append, List.map_append, new, List.filter_map,
    List.map_map]
  rfl

theorem delivered_apply : ((play op config setting before).apply op e).books.delivered =
    (play op config setting before).books.delivered ++
      (((play op config setting before).decisions op e).filter fun d =>
        ¬ Lost config (before ++ [e]) d).map (·.result) := by
  have new : (((play op config setting before).decisions op e).filter fun d =>
      ¬ Lost config (before ++ [e]) d) =
      ((play op config setting before).decisions op e).filter fun d => d.grew := by
    refine List.filter_congr fun d hd => ?_
    rw [grew_iff hd, decide_not]
  rw [Books.delivered, decided_apply, List.filter_append, List.map_append, new, List.filter_map,
    List.map_map]
  rfl

/-- Nothing is discarded while there is a reader and neither a stop nor an abort. -/
theorem unspoilt_play (op : Operation S (Item ι) σ α) (config : Config) (setting : Setting S)
    (events : List (Event S ι)) (reader : events.foldl Reader.next .unclaimed ≠ .gone)
    (opened : events.any (·.closes) = false) :
    (play op config setting events).books.discarded = [] := by
  induction events using List.reverseRecOn with
  | nil => rfl
  | append_singleton events e ih =>
    have none : (((play op config setting events).decisions op e).filter fun d =>
        Lost config (events ++ [e]) d) = [] := by
      refine List.filter_eq_nil_iff.2 fun d _ lost => ?_
      rcases of_decide_eq_true lost with gone | ⟨closed, -⟩
      · exact reader gone
      · rw [opened] at closed
        cases closed
    have reader' : events.foldl Reader.next .unclaimed ≠ .gone := by
      intro gone
      rw [List.foldl_append, gone, List.foldl_cons, List.foldl_nil, Reader.next_gone] at reader
      exact reader rfl
    have opened' : events.any (·.closes) = false := by
      rw [List.any_append, Bool.or_eq_false_iff] at opened
      exact opened.1
    rw [play_concat, discarded_apply, ih reader' opened', none, List.map_nil, List.append_nil]

/-- A stop discards nothing as long as there is a reader: the items that no worker will
take find room, each for its answer. -/
theorem delivered_stop (reader : before.foldl Reader.next .unclaimed ≠ .gone)
    (hd : d ∈ (play op config setting before).decisions op .stop) : d.Delivered := by
  simp only [decisions] at hd
  split at hd
  · rename_i fresh
    have booked := booked_play op config setting before
    have undecided := undecided_of_fresh op config setting before fresh
    have empty : (play op config setting before).processor.output = [] := by
      have delivered := booked.delivered
      simp only [Books.delivered, undecided, List.filter_nil, List.map_nil] at delivered
      exact (List.append_eq_nil_iff.1 delivered.symm).2
    rw [← reader_play op config setting before] at reader
    refine delivered_answers (p := { (play op config setting before).processor with closing := true })
      rfl reader _ ?_ d hd
    simp only [empty, List.length_nil, Nat.zero_add]
    exact booked.waiting_le
  · exact absurd hd List.not_mem_nil

theorem waiting_iff {result : Result α}
    (ht : (play op config setting before).processor.task? = some (.delivering result)) :
    (play op config setting before).decisions op .work = [] ↔
      before.foldl Reader.next .unclaimed ≠ .gone ∧ before.any (·.closes) = false ∧
        (play op config setting before).processor.output.length = config.capacity := by
  have le := (booked_play op config setting before).output_le
  obtain ⟨⟨task, drained⟩, hw, rfl⟩ := Option.map_eq_some_iff.1 ht
  have stuck := deliver_eq_none_iff le drained result (play op config setting before).setting
  rw [reader_play, closing_play, config_play] at stuck
  rw [decisions_work_of_task ht, ← stuck]
  have step : (play op config setting before).processor.workerStep op
      (play op config setting before).now (play op config setting before).setting =
      (play op config setting before).processor.deliver drained result
        (play op config setting before).setting := by
    simp only [workerStep, hw, Option.bind_some]
  rw [step]
  cases (play op config setting before).processor.deliver drained result
      (play op config setting before).setting with
  | none => exact iff_of_true rfl rfl
  | some r => exact iff_of_false nofun nofun

theorem work_of_waiting {w : World S ι σ α} {result : Result α}
    (ht : w.processor.task? = some (.delivering result)) (none : w.decisions op .work = []) :
    w.apply op .work = w := by
  rw [decisions_work_of_task ht] at none
  simp only [apply, work]
  cases hs : w.processor.workerStep op w.now w.setting with
  | none => rfl
  | some r =>
    rw [hs] at none
    cases none

end World

/-- What holds, after a run that has led to `w`, of the results that were decided on and
of those that are decided next. -/
structure Discards (op : Operation S (Item ι) σ α) (config : Config) (before : List (Event S ι))
    (w : World S ι σ α) : Prop where
  /-- A result that is decided on is discarded if it is lost, and delivered otherwise. -/
  decided : ∀ e, ∀ d ∈ w.decisions op e,
    (d.Discarded ↔ Lost config (before ++ [e]) d) ∧ (d.Delivered ↔ ¬ Lost config (before ++ [e]) d)
  /-- No other results are discarded, -/
  discarded : ∀ e, (w.apply op e).books.discarded = w.books.discarded ++
    ((w.decisions op e).filter fun d => Lost config (before ++ [e]) d).map (·.result)
  /-- and no others are put into the output queue. -/
  delivered : ∀ e, (w.apply op e).books.delivered = w.books.delivered ++
    ((w.decisions op e).filter fun d => ¬ Lost config (before ++ [e]) d).map (·.result)
  /-- Every recorded result is decided on once, but for one that the worker may have in
  hand. -/
  once : w.books.recorded.map (·.2) = w.books.decided.map (·.1) ++ w.processor.inHand
  queued : w.books.delivered = w.books.received ++ w.books.destroyed ++ w.processor.output
  counted : w.processor.counters.discarded = Word.wrap w.books.discarded.length
  unspoilt : before.foldl Reader.next .unclaimed ≠ .gone → before.any (·.closes) = false →
    w.books.discarded = []
  /-- Where nothing may be discarded, the worker waits for room. -/
  waits : ∀ result, w.processor.task? = some (.delivering result) →
    (w.decisions op .work = [] ↔ before.foldl Reader.next .unclaimed ≠ .gone ∧
      before.any (·.closes) = false ∧ w.processor.output.length = config.capacity) ∧
    (w.decisions op .work = [] → w.apply op .work = w)
  /-- What finds room is delivered, also after a stop or an abort was called. -/
  roomy : before.foldl Reader.next .unclaimed ≠ .gone → ∀ e, ∀ d ∈ w.decisions op e,
    d.before.output.length < config.capacity → d.Delivered
  /-- A stop answers the items of a processor that was never started, -/
  answered : w.processor.stage = .fresh → (w.decisions op .stop).map (·.result) =
    w.processor.input.map fun item => ⟨item.id, .error .notStarted, 0⟩
  /-- and loses none of the answers as long as there is a reader. -/
  unstarted : before.foldl Reader.next .unclaimed ≠ .gone →
    (∀ d ∈ w.decisions op .stop, d.Delivered) ∧ (w.apply op .stop).books.discarded = w.books.discarded

/-- **The law of discards.** Whatever the operation does and in whatever order things
happen, a result is discarded exactly if, when it is decided, nobody can read it any more,
or a stop or an abort was called and the output queue is full. -/
theorem play_discards (op : Operation S (Item ι) σ α) (config : Config) (setting : Setting S)
    (before : List (Event S ι)) :
    Discards op config before (World.play op config setting before) := by
  have booked := World.booked_play op config setting before
  exact
    { decided := fun e d hd => World.decided_iff hd
      discarded := fun e => World.discarded_apply
      delivered := fun e => World.delivered_apply
      once := booked.results
      queued := booked.delivered
      counted := by rw [booked.counted]; rfl
      unspoilt := World.unspoilt_play op config setting before
      waits := fun result ht => ⟨World.waiting_iff ht, World.work_of_waiting ht⟩
      roomy := fun reader e d hd space => by
        refine (World.decided_iff hd).2.2 ?_
        rintro (gone | ⟨-, full⟩)
        · rw [List.foldl_append, List.foldl_cons, List.foldl_nil, World.next_of_mem_decisions hd] at gone
          exact reader gone
        · exact Nat.ne_of_lt space full
      answered := fun fresh => by
        simp only [World.decisions, if_pos fresh]
        exact results_answerDecisions _ _
      unstarted := fun reader => by
        refine ⟨fun d hd => World.delivered_stop reader hd, ?_⟩
        have none : (((World.play op config setting before).decisions op .stop).filter fun d =>
            Lost config (before ++ [.stop]) d) = [] := by
          refine List.filter_eq_nil_iff.2 fun d hd lost => ?_
          have delivered := World.delivered_stop reader hd
          exact (World.decided_iff hd).2.1 delivered (of_decide_eq_true lost)
        rw [World.discarded_apply, none, List.map_nil, List.append_nil] }

end CallGuard.Processor
