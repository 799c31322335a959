/-
Nothing is lost and nothing is answered twice. The books of a processor
balance after every run: each admitted item is with the worker, in one of the
queues, or was answered, and each answer was read, is queued, went away with
the reading end, or was discarded.
-/
import CallGuard.Proofs.Processor.Lifecycle

namespace CallGuard

namespace Counters

theorem next_wrap (n : Nat) : next (Word.wrap n) = Word.wrap (n + 1) := by
  simp only [next, Word.wrap, Nat.mod_add_mod]

end Counters

namespace Processor

variable {S ι σ α : Type}

section Fields

variable (p : Processor ι σ α) (task : Task ι σ α) (drained : Option Nat) (event : Counters.Event)

@[simp] theorem task?_assign : (p.assign task drained).task? = some task := rfl
@[simp] theorem counters_count : (p.count event).counters = p.counters.record event := rfl

end Fields

theorem inWork_of_task {p : Processor ι σ α} {task} (h : p.task? = some task) :
    p.inWork = task.inWork := by
  simp only [inWork, h, Option.elim_some]

theorem inHand_of_task {p : Processor ι σ α} {task} (h : p.task? = some task) :
    p.inHand = task.inHand := by
  simp only [inHand, h, Option.elim_some]

theorem task?_of_worker {p : Processor ι σ α} {task drained} (h : p.worker = some ⟨task, drained⟩) :
    p.task? = some task := by
  simp only [task?, h, Option.map_some]

/-! ## What is written into the books -/

namespace Books

theorem counters_record (b : Books ι α) (item : Item ι) (result : Result α) :
    (b.record item result).counters = b.counters.record (eventOf result.outcome) := by
  obtain ⟨id, outcome, elapsed⟩ := result
  cases outcome with
  | ok a =>
    simp [counters, record, eventOf, Counters.record, isTimeout, Except.isOk, Except.toBool,
      Counters.next_wrap, discarded]
  | error f =>
    cases hf : f.is (.scope .deadlineExceeded) <;>
      simp [counters, record, eventOf, hf, Counters.record, isTimeout, Except.isOk, Except.toBool,
        Counters.next_wrap, discarded]

theorem delivered_settle {b : Books ι α} {result : Result α} {p p' : Processor ι σ α}
    (h : p.output.length < p'.output.length) :
    (b.settle result p p').delivered = b.delivered ++ [result] := by
  simp [delivered, settle, h]

theorem delivered_settle_not {b : Books ι α} {result : Result α} {p p' : Processor ι σ α}
    (h : ¬ p.output.length < p'.output.length) : (b.settle result p p').delivered = b.delivered := by
  simp [delivered, settle, h]

theorem counters_settle {b : Books ι α} {result : Result α} {p p' : Processor ι σ α}
    (h : p.output.length < p'.output.length) : (b.settle result p p').counters = b.counters := by
  simp [counters, discarded, settle, h]

theorem counters_settle_not {b : Books ι α} {result : Result α} {p p' : Processor ι σ α}
    (h : ¬ p.output.length < p'.output.length) :
    (b.settle result p p').counters = b.counters.record .discarded := by
  simp [counters, discarded, settle, h, Counters.record, Counters.next_wrap]

end Books

/-! ## The books balance -/

/-- The books agree with a processor that has the items `work` in work, the
recorded results `hand` in hand, and the items `waiting` in front of it. -/
structure Balanced (p : Processor ι σ α) (work : List (Item ι)) (hand : List (Result α))
    (waiting : List (Item ι)) (b : Books ι α) : Prop where
  items : b.admitted = b.recorded.map (·.1) ++ work ++ waiting
  results : b.recorded.map (·.2) = b.decided.map (·.1) ++ hand
  named : ∀ r ∈ b.recorded, r.2.id = r.1.id
  delivered : b.delivered = b.received ++ b.destroyed ++ p.output
  kept : p.reader ≠ .gone → b.destroyed = []
  gone : p.reader = .gone → p.output = []
  waiting_le : waiting.length ≤ p.config.capacity
  output_le : p.output.length ≤ p.config.capacity
  counted : p.counters = b.counters

namespace Balanced

variable {p p' : Processor ι σ α} {work : List (Item ι)} {hand : List (Result α)}
  {waiting : List (Item ι)} {b : Books ι α}

theorem of_same (h : Balanced p work hand waiting b) (output : p'.output = p.output)
    (reader : p'.reader = .gone ↔ p.reader = .gone) (config : p'.config = p.config)
    (counters : p'.counters = p.counters) : Balanced p' work hand waiting b where
  items := h.items
  results := h.results
  named := h.named
  delivered := by rw [output]; exact h.delivered
  kept hr := h.kept fun hg => hr (reader.2 hg)
  gone hr := by rw [output]; exact h.gone (reader.1 hr)
  waiting_le := by rw [config]; exact h.waiting_le
  output_le := by rw [output, config]; exact h.output_le
  counted := by rw [counters]; exact h.counted

theorem assign (h : Balanced p work hand waiting b) (task : Task ι σ α) (drained : Option Nat) :
    Balanced (p.assign task drained) work hand waiting b :=
  h.of_same rfl Iff.rfl rfl rfl

theorem accept (h : Balanced p work hand waiting b) (item : Item ι)
    (room : waiting.length < p.config.capacity) :
    Balanced (p.count .submitted) work hand (waiting ++ [item])
      { b with admitted := b.admitted ++ [item] } where
  items := by
    show b.admitted ++ [item] = _
    rw [h.items, List.append_assoc]
  results := h.results
  named := h.named
  delivered := h.delivered
  kept := h.kept
  gone := h.gone
  waiting_le := by rw [List.length_append]; exact room
  output_le := h.output_le
  counted := by
    rw [counters_count, h.counted]
    simp [Books.counters, Counters.record, Counters.next_wrap, Books.discarded]

theorem refuse (h : Balanced p work hand waiting b) :
    Balanced (p.count .rejected) work hand waiting { b with refused := b.refused + 1 } where
  items := h.items
  results := h.results
  named := h.named
  delivered := h.delivered
  kept := h.kept
  gone := h.gone
  waiting_le := h.waiting_le
  output_le := h.output_le
  counted := by
    rw [counters_count, h.counted]
    simp [Books.counters, Counters.record, Counters.next_wrap, Books.discarded]

/-- The work on the oldest item begins. -/
theorem take {item : Item ι} (h : Balanced p [] hand (item :: waiting) b) :
    Balanced p [item] hand waiting b where
  items := by rw [h.items]; simp
  results := h.results
  named := h.named
  delivered := h.delivered
  kept := h.kept
  gone := h.gone
  waiting_le := Nat.le_of_succ_le h.waiting_le
  output_le := h.output_le
  counted := h.counted

/-- The outcome of the item in work is recorded; its result is in hand now. -/
theorem record {item : Item ι} (h : Balanced p [item] [] waiting b) (result : Result α)
    (named : result.id = item.id) :
    Balanced (p.count (eventOf result.outcome)) [] [result] waiting (b.record item result) where
  items := by simp [h.items, Books.record]
  results := by simp [h.results, Books.record]
  named r hr := by
    simp only [Books.record, List.mem_append, List.mem_singleton] at hr
    rcases hr with hr | rfl
    · exact h.named r hr
    · exact named
  delivered := h.delivered
  kept := h.kept
  gone := h.gone
  waiting_le := h.waiting_le
  output_le := h.output_le
  counted := by rw [counters_count, h.counted, Books.counters_record]

theorem deliver {result : Result α} (h : Balanced p work [result] waiting b) (room : p.hasRoom = true) :
    Balanced { p with output := p.output ++ [result] } work [] waiting
      (b.settle result p { p with output := p.output ++ [result] }) := by
  simp only [hasRoom, Bool.and_eq_true, bne_iff_ne, decide_eq_true_eq] at room
  have grew : p.output.length < (p.output ++ [result]).length := by simp
  exact
    { items := h.items
      results := by simp [h.results, Books.settle]
      named := h.named
      delivered := by
        rw [Books.delivered_settle grew, h.delivered]
        simp only [Books.settle, List.append_assoc]
      kept := h.kept
      gone := fun hr => absurd hr room.1
      waiting_le := h.waiting_le
      output_le := by rw [List.length_append]; exact room.2
      counted := by rw [Books.counters_settle grew]; exact h.counted }

theorem discard {result : Result α} (h : Balanced p work [result] waiting b) :
    Balanced (p.count .discarded) work [] waiting (b.settle result p (p.count .discarded)) := by
  have same : ¬ p.output.length < (p.count .discarded).output.length := Nat.lt_irrefl _
  exact
    { items := h.items
      results := by simp [h.results, Books.settle]
      named := h.named
      delivered := by rw [Books.delivered_settle_not same]; exact h.delivered
      kept := h.kept
      gone := h.gone
      waiting_le := h.waiting_le
      output_le := h.output_le
      counted := by rw [counters_count, h.counted, Books.counters_settle_not same] }

theorem read (h : Balanced p work hand waiting b) {r : Result α} {output : List (Result α)}
    (ho : p.output = r :: output) (hr : p.reader ≠ .gone) :
    Balanced { p with output := output } work hand waiting { b with received := b.received ++ [r] } where
  items := h.items
  results := h.results
  named := h.named
  delivered := by
    show b.delivered = b.received ++ [r] ++ b.destroyed ++ output
    rw [h.delivered, h.kept hr, ho]
    simp
  kept := h.kept
  gone hg := absurd hg hr
  waiting_le := h.waiting_le
  output_le := by
    have := h.output_le
    rw [ho, List.length_cons] at this
    exact Nat.le_of_succ_le this
  counted := h.counted

theorem dropReader (h : Balanced p work hand waiting b) :
    Balanced p.dropReader work hand waiting { b with destroyed := b.destroyed ++ p.output } where
  items := h.items
  results := h.results
  named := h.named
  delivered := by
    show b.delivered = b.received ++ (b.destroyed ++ p.output) ++ []
    rw [h.delivered, List.append_nil, List.append_assoc]
  kept hr := absurd rfl hr
  gone _ := rfl
  waiting_le := h.waiting_le
  output_le := Nat.zero_le _
  counted := h.counted

theorem answer {item : Item ι} (h : Balanced p [] [] (item :: waiting) b) :
    Balanced (p.answerUnstarted item) [] [] waiting (b.watchAnswer p item) := by
  have hb := h.take.record ⟨item.id, .error .notStarted, 0⟩ rfl
  simp only [Books.watchAnswer, answerUnstarted]
  cases hr : (p.count .failure).hasRoom with
  | true => exact hb.deliver hr
  | false => exact hb.discard

theorem answers {p : Processor ι σ α} {b : Books ι α} (h : Balanced p [] [] waiting b) :
    Balanced (waiting.foldl answerUnstarted p) [] [] [] (b.watchAnswers p waiting) := by
  induction waiting generalizing p b with
  | nil => exact h
  | cons item waiting ih =>
    simp only [List.foldl_cons, Books.watchAnswers]
    exact ih h.answer

end Balanced

/-- The books agree with the processor as it is. -/
def Booked (p : Processor ι σ α) (b : Books ι α) : Prop := Balanced p p.inWork p.inHand p.input b

theorem booked_iff_of_none {p : Processor ι σ α} {b : Books ι α} (h : p.worker = none) :
    Booked p b ↔ Balanced p [] [] p.input b := by
  unfold Booked inWork inHand task?
  rw [h]
  exact Iff.rfl

theorem Booked.worked {op : Operation S (Item ι) σ α} {now} {p p' : Processor ι σ α} {b : Books ι α}
    {s s' : Setting S} (h : Booked p b) (hw : Worked op now p s p' s') : Booked p' (b.watch p p') := by
  unfold Booked at h ⊢
  cases hw with
  | began hw | turned hw _ | halted hw _ | tried hw _ _ =>
    have ht := task?_of_worker hw
    rw [inWork_of_task ht, inHand_of_task ht] at h
    simp only [Books.watch, ht, task?_assign]
    exact h.assign _ _
  | took hw hi _ =>
    have ht := task?_of_worker hw
    rw [inWork_of_task ht, inHand_of_task ht, hi] at h
    simp only [Books.watch, ht, task?_assign]
    exact h.take.of_same rfl Iff.rfl rfl rfl
  | @concluded _ order _ outcome hw _ =>
    have ht := task?_of_worker hw
    rw [inWork_of_task ht, inHand_of_task ht] at h
    have hb := h.record ⟨order.item.id, resultOf outcome, now - order.started⟩ rfl
    simp only [Books.watch, ht, conclude, task?_assign]
    exact hb.assign _ _
  | delivered hw hr =>
    have ht := task?_of_worker hw
    rw [inWork_of_task ht, inHand_of_task ht] at h
    simp only [Books.watch, ht, task?_assign]
    exact (h.deliver hr).assign _ _
  | discarded hw _ _ =>
    have ht := task?_of_worker hw
    rw [inWork_of_task ht, inHand_of_task ht] at h
    simp only [Books.watch, ht, task?_assign]
    exact h.discard.assign _ _

/-! ## Runs -/

namespace World

variable {op : Operation S (Item ι) σ α} {w : World S ι σ α}

theorem stop_booked (h : Booked w.processor w.books) (sound : Sound w.processor) :
    Booked w.stop.processor w.stop.books := by
  simp only [stop, processor_proceedStop, books_proceedStop]
  cases hs : w.processor.stage with
  | fresh =>
    obtain ⟨stopping, s', he, -⟩ := beginStop_fresh hs w.setting
    have hw := sound.fresh hs
    have hc : Balanced { w.processor with closing := true } [] [] w.processor.input w.books :=
      ((booked_iff_of_none hw).1 h).of_same rfl Iff.rfl rfl rfl
    have hq : (w.processor.input.foldl answerUnstarted { w.processor with closing := true }).worker = none := by
      obtain ⟨output, counters, hf⟩ :=
        foldl_answerUnstarted w.processor.input { w.processor with closing := true }
      rw [hf]
      exact hw
    rw [he, Books.watchStop, if_pos hs]
    refine (booked_iff_of_none ?_).2 (hc.answers.of_same rfl Iff.rfl rfl rfl)
    exact hq
  | launched =>
    have started : w.processor.stage ≠ .fresh := by rw [hs]; decide
    rw [beginStop_launched hs, Books.watchStop, if_neg started]
    exact h.of_same rfl Iff.rfl rfl rfl
  | released =>
    obtain ⟨stopping, s', he, -⟩ := beginStop_later (.inl hs) w.setting
    have started : w.processor.stage ≠ .fresh := by rw [hs]; decide
    rw [he, Books.watchStop, if_neg started]
    exact h.of_same rfl Iff.rfl rfl rfl
  | dropped => exact absurd hs sound.kept

theorem apply_booked (h : Booked w.processor w.books) (sound : Sound w.processor) (e : Event S ι) :
    Booked (w.apply op e).processor (w.apply op e).books := by
  by_cases he : e.isAside = true
  · have aside := aside_apply op w he
    obtain ⟨reporter, attended, hp⟩ := aside.processor
    rw [aside.books, hp]
    exact h.of_same rfl Iff.rfl rfl rfl
  have m := Happened.of_apply op w e
  generalize w.apply op e = w' at m ⊢
  cases m with
  | ignored _ => exact h
  | @admitted id payload _ room =>
    exact (h.accept ⟨id, payload, w.now⟩ room).of_same rfl Iff.rfl rfl rfl
  | refused _ => exact h.refuse
  | started fresh =>
    have hb := (booked_iff_of_none (sound.fresh fresh)).1 h
    exact hb.of_same rfl Iff.rfl rfl rfl
  | stopped => exact stop_booked h sound
  | aborted => exact h.of_same rfl Iff.rfl rfl rfl
  | claimed unclaimed =>
    have unread : w.processor.reader ≠ .gone := by rw [unclaimed]; decide
    have claimed : Reader.claimed ≠ .gone := by decide
    exact h.of_same rfl (iff_of_false claimed unread) rfl rfl
  | read claimed output => exact Balanced.read h output (by rw [claimed]; decide)
  | unread _ => exact Balanced.dropReader h
  | worked worked _ => exact h.worked worked
  | proceeded | gaveUp | reported | passed | around => exact absurd rfl he

/-- The books balance after every run. -/
theorem booked_play (op : Operation S (Item ι) σ α) (config : Config) (setting : Setting S)
    (events : List (Event S ι)) :
    Booked (play op config setting events).processor (play op config setting events).books := by
  induction events using List.reverseRecOn with
  | nil =>
    exact
      { items := rfl
        results := rfl
        named := nofun
        delivered := rfl
        kept := fun _ => rfl
        gone := nofun
        waiting_le := Nat.zero_le _
        output_le := Nat.zero_le _
        counted := rfl }
  | append_singleton events e ih =>
    rw [play_concat]
    exact apply_booked ih (orderly_play op config setting events).sound e

end World

end Processor

end CallGuard
