/-
The account of a processor: where every admitted item is, what the counters
say of them, which submits are answered how, and what a finished stop leaves
behind. This is what the balanced books come to, as long as no counter has
started over.
-/
import CallGuard.Behaviour
import CallGuard.Proofs.Processor.Conservation

namespace CallGuard.Processor

variable {S ι σ α : Type}

/-! ## How many submits there were -/

namespace Books

/-- How many submits were answered. -/
def asked (b : Books ι α) : Nat := b.admitted.length + b.refused

@[simp] theorem asked_record (b : Books ι α) (item : Item ι) (result : Result α) :
    (b.record item result).asked = b.asked := rfl

@[simp] theorem asked_settle (b : Books ι α) (result : Result α) (p p' : Processor ι σ α) :
    (b.settle result p p').asked = b.asked := rfl

theorem asked_watch (b : Books ι α) (p p' : Processor ι σ α) : (b.watch p p').asked = b.asked := by
  unfold watch
  split
  · exact asked_record _ _ _
  · exact asked_settle _ _ _ _
  · rfl

theorem asked_watchAnswers (b : Books ι α) (p : Processor ι σ α) (items : List (Item ι)) :
    (b.watchAnswers p items).asked = b.asked := by
  induction items generalizing b p with
  | nil => rfl
  | cons item items ih =>
    rw [watchAnswers, ih, watchAnswer, asked_settle, asked_record]

theorem asked_watchStop (b : Books ι α) (p : Processor ι σ α) : (b.watchStop p).asked = b.asked := by
  unfold watchStop
  split
  · exact asked_watchAnswers _ _ _
  · rfl

end Books

namespace World

variable {op : Operation S (Item ι) σ α} {w : World S ι σ α}

theorem asked_apply (e : Event S ι) :
    (w.apply op e).books.asked = w.books.asked + if e.isSubmit then 1 else 0 := by
  have m := Happened.of_apply op w e
  generalize w.apply op e = w' at m ⊢
  cases m with
  | ignored impossible => simp only [impossible.isSubmit, Bool.false_eq_true, if_false, Nat.add_zero]
  | admitted _ _ =>
    simp only [Event.isSubmit, if_true, Books.asked, List.length_append, List.length_singleton]
    omega
  | refused _ =>
    simp only [Event.isSubmit, if_true, Books.asked]
    omega
  | stopped =>
    simp only [stop, books_proceedStop]
    exact Books.asked_watchStop _ _
  | proceeded _ _ =>
    rw [books_proceedStop]
    rfl
  | worked _ _ => exact Books.asked_watch _ _ _
  | started _ | gaveUp | aborted | claimed _ | read _ _ | unread _ | reported _ _ | passed d
  | around setting => rfl

theorem asked_play (op : Operation S (Item ι) σ α) (config : Config) (setting : Setting S)
    (events : List (Event S ι)) :
    (play op config setting events).books.asked = events.countP (·.isSubmit) := by
  induction events using List.reverseRecOn with
  | nil => rfl
  | append_singleton events e ih =>
    rw [play_concat, asked_apply, ih, List.countP_append, List.countP_singleton]

end World

/-! ## Where the items are -/

/-- Every admitted item is in one place, and the counters tell how many went
where. -/
structure Accounted (p : Processor ι σ α) (b : Books ι α) : Prop where
  /-- In the order in which they were admitted, the items were answered, are in
  work, and wait. -/
  items : b.admitted = b.recorded.map (·.1) ++ p.inWork ++ p.input
  named : ∀ r ∈ b.recorded, r.2.id = r.1.id
  /-- In the same order, the results were delivered or discarded, and are in hand. -/
  results : b.recorded.map (·.2) = b.decided.map (·.1) ++ p.inHand
  /-- In the same order, the delivered ones were read, went away unread, and are
  in the output queue. -/
  delivered : b.delivered = b.received ++ b.destroyed ++ p.output
  /-- The worker holds one item at most, before or after its outcome is recorded. -/
  held : p.inWork.length + p.inHand.length ≤ 1
  places : (b.admitted.map (·.id)).Perm
    (p.input.map (·.id) ++ p.inWork.map (·.id) ++ p.inHand.map (·.id) ++ p.output.map (·.id) ++
      b.received.map (·.id) ++ b.destroyed.map (·.id) ++ b.discarded.map (·.id))
  submitted : p.counters.submitted = b.admitted.length
  rejected : p.counters.rejected = b.refused
  answered : p.counters.succeeded + p.counters.failed = b.recorded.length
  discarded : p.counters.discarded = b.discarded.length
  input_le : p.input.length ≤ p.config.capacity
  output_le : p.output.length ≤ p.config.capacity

theorem Task.held_le (task : Task ι σ α) : task.inWork.length + task.inHand.length ≤ 1 := by
  cases task <;> exact Nat.le_of_ble_eq_true rfl

theorem held_le (p : Processor ι σ α) : p.inWork.length + p.inHand.length ≤ 1 := by
  cases ht : p.task? with
  | none => simp [inWork, inHand, ht]
  | some task =>
    rw [inWork_of_task ht, inHand_of_task ht]
    exact task.held_le

namespace Books

theorem decided_perm (b : Books ι α) :
    (b.decided.map (·.1)).Perm (b.delivered ++ b.discarded) := by
  rw [delivered, discarded, ← List.map_append]
  exact (List.filter_append_perm (·.2) b.decided).symm.map _

theorem succeeded_add_failed (b : Books ι α) :
    b.recorded.countP (·.2.outcome.isOk) + b.recorded.countP (!·.2.outcome.isOk) =
      b.recorded.length := by
  have split := b.recorded.length_eq_countP_add_countP (·.2.outcome.isOk)
  simp only [Bool.not_eq_true, Bool.decide_eq_false] at split
  exact split.symm

theorem discarded_length_le (b : Books ι α) : b.discarded.length ≤ b.decided.length := by
  rw [discarded, List.length_map]
  exact List.length_filter_le _ _

end Books

namespace Balanced

variable {p : Processor ι σ α} {work : List (Item ι)} {hand : List (Result α)}
  {waiting : List (Item ι)} {b : Books ι α}

theorem recorded_length_le (h : Balanced p work hand waiting b) :
    b.recorded.length ≤ b.admitted.length := by
  rw [h.items]
  simp only [List.length_append, List.length_map]
  omega

theorem discarded_length_le (h : Balanced p work hand waiting b) :
    b.discarded.length ≤ b.admitted.length := by
  have hr := congrArg List.length h.results
  simp only [List.length_append, List.length_map] at hr
  have := h.recorded_length_le
  have := b.discarded_length_le
  omega

theorem recorded_names (h : Balanced p work hand waiting b) :
    b.recorded.map (·.1.id) = b.recorded.map (·.2.id) :=
  List.map_congr_left fun r hr => (h.named r hr).symm

theorem places (h : Balanced p work hand waiting b) : (b.admitted.map (·.id)).Perm
    (waiting.map (·.id) ++ work.map (·.id) ++ hand.map (·.id) ++ p.output.map (·.id) ++
      b.received.map (·.id) ++ b.destroyed.map (·.id) ++ b.discarded.map (·.id)) := by
  have names : b.recorded.map (·.1.id) = (b.decided.map (·.1) ++ hand).map (·.id) := by
    rw [h.recorded_names, ← h.results, List.map_map]
    rfl
  have decided := (b.decided_perm.map (·.id)).trans (by rw [h.delivered])
  have admitted : b.admitted.map (·.id) =
      (b.decided.map (·.1)).map (·.id) ++ hand.map (·.id) ++ work.map (·.id) ++ waiting.map (·.id) := by
    rw [h.items, List.map_append, List.map_append, List.map_map, ← List.map_append, ← names]
    rfl
  rw [admitted]
  -- The places do not keep the order of admission, so names are counted one by one.
  classical
  rw [List.perm_iff_count]
  intro id
  have := List.perm_iff_count.1 decided id
  simp only [List.map_append, List.count_append] at this ⊢
  omega

end Balanced

/-- Balanced books give the account of the processor, as long as no counter has
started over. -/
theorem Booked.accounted {p : Processor ι σ α} {b : Books ι α} (h : Booked p b)
    (few : b.asked < Word.count) : Accounted p b := by
  unfold Booked at h
  have asked : b.admitted.length + b.refused ≤ Word.last := Nat.le_sub_one_of_lt few
  have admitted : b.admitted.length ≤ Word.last := by omega
  have refused : b.refused ≤ Word.last := by omega
  have recorded := h.recorded_length_le
  exact
    { items := h.items
      named := h.named
      results := h.results
      delivered := h.delivered
      held := p.held_le
      places := h.places
      submitted := by
        rw [h.counted]
        exact Word.wrap_of_le admitted
      rejected := by
        rw [h.counted]
        exact Word.wrap_of_le refused
      answered := by
        rw [h.counted]
        have total := b.succeeded_add_failed
        simp only [Books.counters]
        rw [Word.wrap_of_le (by omega), Word.wrap_of_le (by omega), total]
      discarded := by
        rw [h.counted]
        exact Word.wrap_of_le (Nat.le_trans h.discarded_length_le admitted)
      input_le := h.waiting_le
      output_le := h.output_le }

/-! ## Runs -/

/-- How a submit is answered in a world. It adds the item to the input queue if
nothing has `closed` the processor and there is room, and to the count of refusals
otherwise. It does nothing else, and works on nothing. -/
structure Answered (w : World S ι σ α) (closed : Bool) (id : String) (payload : ι) : Prop where
  admits : (w.processor.submit id payload w.now w.setting).1 = true ↔
    closed = false ∧ w.processor.input.length < w.processor.config.capacity
  admitted : (w.processor.submit id payload w.now w.setting).1 = true →
    (w.submit id payload).processor =
      { w.processor with
        input := w.processor.input ++ [⟨id, payload, w.now⟩]
        counters := { w.processor.counters with submitted := w.processor.counters.submitted + 1 } }
  refused : (w.processor.submit id payload w.now w.setting).1 = false →
    (w.submit id payload).processor =
      { w.processor with
        counters := { w.processor.counters with rejected := w.processor.counters.rejected + 1 } }
  signals : (w.submit id payload).setting.signals = w.setting.signals
  site : (w.submit id payload).setting.site = w.setting.site

/-- What a stop leaves when it has returned: no item waits or is held, each was
answered, and each answer was delivered or discarded. -/
structure Settled (p : Processor ι σ α) (b : Books ι α) : Prop where
  input : p.input = []
  inWork : p.inWork = []
  inHand : p.inHand = []
  answered : p.counters.succeeded + p.counters.failed = p.counters.submitted
  spread : p.output.length + b.received.length + b.destroyed.length + p.counters.discarded =
    p.counters.submitted

theorem Accounted.settled {p : Processor ι σ α} {b : Books ι α} (h : Accounted p b) (hs : Spent p) :
    Settled p b where
  input := hs.input
  inWork := hs.inWork
  inHand := hs.inHand
  answered := by
    rw [h.answered, h.submitted, h.items, hs.inWork, hs.input]
    simp
  spread := by
    have places := h.places.length_eq
    simp only [List.length_append, List.length_map, hs.input, hs.inWork, hs.inHand,
      List.length_nil] at places
    rw [h.discarded, h.submitted]
    omega

namespace World

variable {op : Operation S (Item ι) σ α} {w : World S ι σ α}

theorem submit_answered (h : Booked w.processor w.books) (few : w.books.asked + 1 < Word.count)
    (id : String) (payload : ι) : Answered w w.processor.closing id payload := by
  have ha := h.accounted (Nat.lt_of_succ_lt few)
  have total : w.books.admitted.length + w.books.refused + 1 ≤ Word.last := Nat.le_sub_one_of_lt few
  have hs : w.processor.counters.submitted + 1 ≤ Word.last := by
    rw [ha.submitted]
    omega
  have hr : w.processor.counters.rejected + 1 ≤ Word.last := by
    rw [ha.rejected]
    omega
  rcases w.processor.submit_cases id payload w.now w.setting with ⟨hc, hl, he⟩ | ⟨hn, entry, he⟩
  · have answer : (w.submit id payload).processor =
        { w.processor with input := w.processor.input ++ [Item.mk id payload w.now] }.count .submitted ∧
        (w.submit id payload).setting = w.setting := by
      unfold submit
      rw [he]
      exact ⟨rfl, rfl⟩
    exact
      { admits := by
          rw [he]
          exact iff_of_true rfl ⟨hc, hl⟩
        admitted := fun _ => by
          rw [answer.1]
          simp only [count, Counters.record, Counters.next, Word.wrap_of_le hs]
        refused := fun hf => by
          rw [he] at hf
          cases hf
        signals := by rw [answer.2]
        site := by rw [answer.2] }
  · have answer : (w.submit id payload).processor = w.processor.count .rejected ∧
        (w.submit id payload).setting = w.setting.log entry := by
      unfold submit
      rw [he]
      exact ⟨rfl, rfl⟩
    exact
      { admits := by
          rw [he]
          refine iff_of_false Bool.false_ne_true ?_
          rintro ⟨hc, hl⟩
          rcases hn with hn | hn
          · rw [hn] at hc
            cases hc
          · exact Nat.not_lt.2 hn hl
        admitted := fun ht => by
          rw [he] at ht
          cases ht
        refused := fun _ => by
          rw [answer.1]
          simp only [count, Counters.record, Counters.next, Word.wrap_of_le hr]
        signals := by
          rw [answer.2]
          rfl
        site := by
          rw [answer.2]
          rfl }

/-- What holds of a run, of each submit in it and of the state it leads to. -/
structure Conserved (op : Operation S (Item ι) σ α) (config : Config) (setting : Setting S)
    (events : List (Event S ι)) : Prop where
  kept : (play op config setting events).processor.config = config
  accounted : Accounted (play op config setting events).processor (play op config setting events).books
  /-- A submit finds the processor closed if a stop or an abort was called before. -/
  submits : ∀ before id payload after, events = before ++ .submit id payload :: after →
    Answered (play op config setting before) (before.any (·.closes)) id payload
  settled : (play op config setting events).stopped = true →
    Settled (play op config setting events).processor (play op config setting events).books

/-- **Conservation.** Whatever the operation does and in whatever order things
happen, each submit is answered as it should be, every admitted item is in one
place, and once a stop has returned nothing is left to do. -/
theorem play_conserved (op : Operation S (Item ι) σ α) (config : Config) (setting : Setting S)
    (events : List (Event S ι)) (few : events.countP (·.isSubmit) < Word.count) :
    Conserved op config setting events := by
  have accounted : Accounted (play op config setting events).processor
      (play op config setting events).books := by
    refine (booked_play op config setting events).accounted ?_
    rw [asked_play]
    exact few
  refine ⟨config_play op config setting events, accounted, ?_, fun hs => ?_⟩
  · intro before id payload after he
    have fewer : (play op config setting before).books.asked + 1 < Word.count := by
      rw [asked_play]
      rw [he, List.countP_append, List.countP_cons_of_pos rfl] at few
      omega
    rw [← closing_play op config setting before]
    exact submit_answered (booked_play op config setting before) fewer id payload
  · exact accounted.settled ((orderly_play op config setting events).stopped hs)

/-- One item finds the input queue full, and the result of another finds the
output queue full after a stop was called. -/
theorem play_conserved_full :
    let op : Operation Unit (Item Nat) (Scope × Activity Nat) Nat :=
      .scripted (fun _ _ => .finish (.value 7)) (fun _ _ s => s) (fun _ s => s)
    let config : Config := ⟨1, 1, none, [], none, by decide, by decide, nofun, nofun⟩
    let events : List (Event Unit Nat) :=
      [.submit "a" 1, .submit "b" 2, .start, .work, .work, .work, .work, .work, .submit "c" 3,
        .stop, .work, .work, .work, .work, .work, .work, .awaitStop, .results, .read]
    events.countP (·.isSubmit) < Word.count ∧ Conserved op config ⟨.empty, [], ()⟩ events ∧
      (play op config ⟨.empty, [], ()⟩ events).stopped = true ∧
      (play op config ⟨.empty, [], ()⟩ events).processor.counters = ⟨2, 1, 2, 0, 0, 1⟩ := by
  intro op config events
  have few : events.countP (·.isSubmit) < Word.count := by decide +kernel
  exact ⟨few, play_conserved op config _ events few, by decide +kernel, by decide +kernel⟩

end World

end CallGuard.Processor
