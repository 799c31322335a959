/-
One item at a time, in the order of admission. Every call that a processor makes of
its operation is seen with what had become of the items by then (`Attempt`). No two
calls overlap, a call for an item begins when all items before it have been answered,
and results are delivered in the order of their items, each with what came of the
item's own latest call (`Stems`).
-/
import CallGuard.Behaviour
import CallGuard.Proofs.Processor.Calls
import CallGuard.Proofs.Processor.Conservation
import Mathlib.Data.List.NodupEquivFin

namespace CallGuard.Processor

variable {S ι σ α : Type}

/-- A call of the operation for an item, as it was seen. -/
structure Attempt (ι α : Type) where
  item : Item ι
  /-- How many outcomes had been recorded when it began. If items are taken in turn,
  the item is the one that was admitted after as many others. -/
  recorded : Nat
  /-- How many results had been delivered or discarded when it began. -/
  decided : Nat
  began : Nat
  /-- When it ended, and how unless it was abandoned. -/
  ended : Option (Nat × Option (Outcome α))

/-- A call ends once. -/
def Attempt.close (now : Nat) (outcome : Option (Outcome α)) (t : Attempt ι α) : Attempt ι α :=
  { t with ended := some (t.ended.getD (now, outcome)) }

/-- The latest call for the item that was admitted after `k` others. -/
def latest (attempts : List (Attempt ι α)) (k : Nat) : Option (Attempt ι α) :=
  attempts.find? (·.recorded == k)

namespace World

/-- What the operation notes of its calls in an event, if it has a pen. -/
def notes (op : Operation S (Item ι) σ α) (w : World S ι σ α) : Event S ι → List (Note (Item ι) α)
  | .work =>
    (w.processor.workerStep op.noted w.now (w.setting.beside [])).elim [] fun r => r.2.site.2
  | _ => []

/-- A note is entered among the calls, the latest of which comes first. -/
def enter (w : World S ι σ α) (attempts : List (Attempt ι α)) :
    Note (Item ι) α → List (Attempt ι α)
  | .begun item =>
    ⟨item, w.books.recorded.length, w.books.decided.length, w.now, none⟩ :: attempts
  | .ended outcome =>
    match attempts with
    | [] => []
    | t :: rest => t.close w.now outcome :: rest

/-- The calls made in a run, the latest first. -/
def attempts (op : Operation S (Item ι) σ α) (config : Config) (setting : Setting S)
    (events : List (Event S ι)) : List (Attempt ι α) :=
  (events.foldl (fun (w, seen) e => (w.apply op e, (w.notes op e).foldl w.enter seen))
    (initial config setting, [])).2

theorem attempts_concat (op : Operation S (Item ι) σ α) (config : Config) (setting : Setting S)
    (events : List (Event S ι)) (e : Event S ι) :
    attempts op config setting (events ++ [e]) =
      ((play op config setting events).notes op e).foldl (play op config setting events).enter
        (attempts op config setting events) := by
  have beside (w : World S ι σ α) (seen : List (Attempt ι α)) :
      (events.foldl (fun (w, seen) e => (w.apply op e, (w.notes op e).foldl w.enter seen))
        (w, seen)).1 = events.foldl (apply op) w := by
    induction events generalizing w seen with
    | nil => rfl
    | cons e events ih => exact ih _ _
  unfold attempts
  rw [List.foldl_append, List.foldl_cons, List.foldl_nil]
  simp only [beside]
  rfl

theorem notes_work (op : Operation S (Item ι) σ α) (w : World S ι σ α) : w.notes op .work =
    (w.processor.workerStep op w.now w.setting).elim []
      fun _ => w.processor.workNotes op w.now w.setting := by
  simp only [notes, workerStep_noted]
  cases w.processor.workerStep op w.now w.setting <;> rfl

end World

/-! ## Calls, one after the other -/

/-- Where the outcome of an item stems from, given the latest call for it. -/
inductive Stems (last : Option (Attempt ι α)) : Except Failure α → Prop
  | returned {t at_ outcome} : last = some t → t.ended = some (at_, some outcome) →
      Stems last (resultOf outcome)
  /-- A failure that was not tried again, because the time for it was over. -/
  | exhausted {t at_ outcome f elapsed attempts} : last = some t →
      t.ended = some (at_, some outcome) → resultOf outcome = .error f →
      Stems last (.error (.exhausted elapsed attempts f))
  | cut {reason} : Stems last (.error (.scope reason))
  | unstarted : last = none → Stems last (.error .notStarted)

/-- No call is under way. -/
def Closed (attempts : List (Attempt ι α)) : Prop := ∀ t ∈ attempts, t.ended.isSome = true

/-- Calls up to an instant, by which `k` outcomes have been recorded, come one after
the other, and each in its item's turn. -/
structure Serial (now k : Nat) (admitted : List (Item ι)) (attempts : List (Attempt ι α)) : Prop where
  apart : attempts.Pairwise fun u t =>
    ∃ at_ outcome, t.ended = some (at_, outcome) ∧ t.began ≤ at_ ∧ at_ ≤ u.began
  ascending : attempts.Pairwise fun u t => t.recorded ≤ u.recorded
  past : ∀ t ∈ attempts, t.began ≤ now ∧
    ∀ at_ outcome, t.ended = some (at_, outcome) → t.began ≤ at_ ∧ at_ ≤ now
  turn : ∀ t ∈ attempts, t.recorded ≤ k ∧ t.decided = t.recorded ∧ admitted[t.recorded]? = some t.item

namespace Serial

variable {now now' k k' : Nat} {admitted : List (Item ι)} {attempts : List (Attempt ι α)}

theorem later (h : Serial now k admitted attempts) (hn : now ≤ now') (hk : k ≤ k')
    (more : List (Item ι)) : Serial now' k' (admitted ++ more) attempts where
  apart := h.apart
  ascending := h.ascending
  past t ht := by
    obtain ⟨hb, he⟩ := h.past t ht
    refine ⟨Nat.le_trans hb hn, fun at_ outcome ha => ?_⟩
    obtain ⟨h1, h2⟩ := he at_ outcome ha
    exact ⟨h1, Nat.le_trans h2 hn⟩
  turn t ht := by
    obtain ⟨hr, hd, hi⟩ := h.turn t ht
    refine ⟨Nat.le_trans hr hk, hd, ?_⟩
    obtain ⟨hl, -⟩ := List.getElem?_eq_some_iff.1 hi
    rw [List.getElem?_append_left hl, hi]

theorem begun (h : Serial now k admitted attempts) (closed : Closed attempts) {item : Item ι}
    (hi : admitted[k]? = some item) :
    Serial now k admitted (⟨item, k, k, now, none⟩ :: attempts) where
  apart := by
    refine List.pairwise_cons.2 ⟨fun t ht => ?_, h.apart⟩
    obtain ⟨⟨at_, outcome⟩, he⟩ := Option.isSome_iff_exists.1 (closed t ht)
    obtain ⟨h1, h2⟩ := (h.past t ht).2 at_ outcome he
    exact ⟨at_, outcome, he, h1, h2⟩
  ascending := List.pairwise_cons.2 ⟨fun t ht => (h.turn t ht).1, h.ascending⟩
  past t ht := by
    rcases List.mem_cons.1 ht with rfl | ht
    · exact ⟨Nat.le_refl _, nofun⟩
    · exact h.past t ht
  turn t ht := by
    rcases List.mem_cons.1 ht with rfl | ht
    · exact ⟨Nat.le_refl _, rfl, hi⟩
    · exact h.turn t ht

theorem ended {t : Attempt ι α} (h : Serial now k admitted (t :: attempts)) (going : t.ended = none)
    (outcome : Option (Outcome α)) :
    Serial now k admitted (t.close now outcome :: attempts) where
  apart := by
    obtain ⟨ha, hr⟩ := List.pairwise_cons.1 h.apart
    exact List.pairwise_cons.2 ⟨ha, hr⟩
  ascending := by
    obtain ⟨ha, hr⟩ := List.pairwise_cons.1 h.ascending
    exact List.pairwise_cons.2 ⟨ha, hr⟩
  past u hu := by
    rcases List.mem_cons.1 hu with rfl | hu
    · obtain ⟨hb, -⟩ := h.past t List.mem_cons_self
      refine ⟨hb, fun at_ outcome' he => ?_⟩
      simp only [Attempt.close, going, Option.getD_none, Option.some.injEq, Prod.mk.injEq] at he
      obtain ⟨rfl, -⟩ := he
      exact ⟨hb, Nat.le_refl _⟩
    · exact h.past u (List.mem_cons_of_mem _ hu)
  turn u hu := by
    rcases List.mem_cons.1 hu with rfl | hu
    · exact h.turn t List.mem_cons_self
    · exact h.turn u (List.mem_cons_of_mem _ hu)

end Serial

/-- The calls tell how the work on the item stands that was admitted after `k` others. -/
inductive Tracks (attempts : List (Attempt ι α)) (k : Nat) : Stance α → Prop
  | ready : Closed attempts → Tracks attempts k .ready
  | calling {t rest} : attempts = t :: rest → t.recorded = k → t.ended = none → Closed rest →
      Tracks attempts k .calling
  | failed {t at_ outcome f} : Closed attempts → latest attempts k = some t →
      t.ended = some (at_, some outcome) → resultOf outcome = .error f → Tracks attempts k (.failed f)
  | done {outcome} : Closed attempts → Stems (latest attempts k) (resultOf outcome) →
      Tracks attempts k (.done outcome)

section Attempts

variable {t : Attempt ι α} {attempts : List (Attempt ι α)} {k now : Nat}

theorem latest_cons_of_eq (h : t.recorded = k) : latest (t :: attempts) k = some t := by
  simp only [latest, List.find?_cons, h, beq_self_eq_true]

theorem latest_cons_of_ne (h : t.recorded ≠ k) : latest (t :: attempts) k = latest attempts k := by
  simp only [latest, List.find?_cons, beq_false_of_ne h]

theorem Closed.close (h : Closed attempts) (outcome : Option (Outcome α)) :
    Closed (t.close now outcome :: attempts) := by
  intro u hu
  rcases List.mem_cons.1 hu with rfl | hu
  · rfl
  · exact h u hu

theorem Attempt.ended_close (going : t.ended = none) (outcome : Option (Outcome α)) :
    (t.close now outcome).ended = some (now, outcome) := by
  simp only [close, going, Option.getD_none]

/-- What is taken from the end of the latest call is what the calls tell. -/
theorem Stance.Takes.tracks {outcome : Outcome α} {stance : Stance α} {at_ : Nat}
    (h : Stance.Takes outcome stance) (closed : Closed (t :: attempts)) (hk : t.recorded = k)
    (he : t.ended = some (at_, some outcome)) : Tracks (t :: attempts) k stance := by
  have hl : latest (t :: attempts) k = some t := latest_cons_of_eq hk
  cases h with
  | done same => exact .done closed (same ▸ .returned hl he)
  | failed hf => exact .failed closed hl he hf

end Attempts

/-- **A step of the work on an item** keeps its calls in order and in turn, and leaves
those for other items alone. -/
theorem Tracks.moved {w : World S ι σ α} {admitted : List (Item ι)} {attempts : List (Attempt ι α)}
    {k : Nat} {item : Item ι} {stance stance' : Stance α} {notes : List (Note (Item ι) α)}
    (h : Tracks attempts k stance) (serial : Serial w.now k admitted attempts)
    (hm : Moved item stance notes stance') (hr : w.books.recorded.length = k)
    (hd : w.books.decided.length = k) (hi : admitted[k]? = some item) :
    Serial w.now k admitted (notes.foldl w.enter attempts) ∧
      Tracks (notes.foldl w.enter attempts) k stance' ∧
      ∀ j, j ≠ k → latest (notes.foldl w.enter attempts) j = latest attempts j := by
  have others {t : Attempt ι α} {rest : List (Attempt ι α)} (ht : t.recorded = k) (j : Nat)
      (hj : j ≠ k) : latest (t :: rest) j = latest rest j :=
    latest_cons_of_ne fun he => hj (he.symm.trans ht)
  have enters : w.enter attempts (.begun item) = ⟨item, k, k, w.now, none⟩ :: attempts := by
    simp only [World.enter, hr, hd]
  cases hm with
  | barred =>
    cases h with
    | ready closed => exact ⟨serial, .done closed .cut, fun _ _ => rfl⟩
  | called =>
    cases h with
    | ready closed =>
      simp only [List.foldl_cons, List.foldl_nil, enters]
      exact ⟨serial.begun closed hi, .calling rfl rfl rfl closed, others rfl⟩
  | @passed outcome _ takes =>
    cases h with
    | ready closed =>
      simp only [List.foldl_cons, List.foldl_nil, enters]
      have after := (serial.begun closed hi).ended rfl (some outcome)
      exact ⟨after, takes.tracks (closed.close _) rfl (Attempt.ended_close rfl _), others rfl⟩
  | waited => exact ⟨serial, h, fun _ _ => rfl⟩
  | @returned outcome _ takes =>
    cases h with
    | @calling t rest ha ht going closed =>
      subst ha
      have after := serial.ended going (some outcome)
      refine ⟨after, takes.tracks (closed.close _) ht (Attempt.ended_close going _), fun j hj => ?_⟩
      exact (@others (t.close w.now (some outcome)) rest ht j hj).trans (others ht j hj).symm
  | cut =>
    cases h with
    | @calling t rest ha ht going closed =>
      subst ha
      refine ⟨serial.ended going none, .done (closed.close _) .cut, fun j hj => ?_⟩
      exact (@others (t.close w.now none) rest ht j hj).trans (others ht j hj).symm
  | renewed =>
    cases h with
    | failed closed _ _ _ => exact ⟨serial, .ready closed, fun _ _ => rfl⟩
  | givenUp =>
    cases h with
    | failed closed _ _ _ => exact ⟨serial, .done closed .cut, fun _ _ => rfl⟩
  | exhausted =>
    cases h with
    | failed closed hl he hf => exact ⟨serial, .done closed (.exhausted hl he hf), fun _ _ => rfl⟩

/-! ## Runs -/

/-- The calls agree with what the worker is at, when `k` outcomes have been recorded. -/
def Standing (attempts : List (Attempt ι α)) (k : Nat) : Option (Task ι σ α) → Prop
  | some (.working _ effort) => Tracks attempts k effort.stance
  | _ => Closed attempts

/-- The calls of a world are in order, and tell what came of the items so far. -/
structure InTurn (w : World S ι σ α) (attempts : List (Attempt ι α)) : Prop where
  serial : Serial w.now w.books.recorded.length w.books.admitted attempts
  standing : Standing attempts w.books.recorded.length w.processor.task?
  stems : ∀ k item result, w.books.recorded[k]? = some (item, result) →
    Stems (latest attempts k) result.outcome
  fresh : w.processor.stage = .fresh → attempts = []

namespace Books

theorem recorded_watchAnswers (b : Books ι α) (p : Processor ι σ α) (items : List (Item ι)) :
    (b.watchAnswers p items).recorded =
      b.recorded ++ items.map fun item => (item, ⟨item.id, .error .notStarted, 0⟩) := by
  induction items generalizing b p with
  | nil => simp only [watchAnswers, List.map_nil, List.append_nil]
  | cons item items ih =>
    rw [watchAnswers, ih]
    simp only [watchAnswer, settle, record, List.append_assoc, List.map_cons, List.cons_append,
      List.nil_append]

theorem admitted_watchAnswers (b : Books ι α) (p : Processor ι σ α) (items : List (Item ι)) :
    (b.watchAnswers p items).admitted = b.admitted := by
  induction items generalizing b p with
  | nil => rfl
  | cons item items ih => rw [watchAnswers, ih]; rfl

end Books

namespace InTurn

variable {op : Operation S (Item ι) σ α} {w w' : World S ι σ α} {attempts : List (Attempt ι α)}

/-- No call is made or ends, but outcomes that the calls tell of may be recorded. -/
theorem of_books (h : InTurn w attempts) (now : w.now ≤ w'.now)
    (admitted : ∃ more, w'.books.admitted = w.books.admitted ++ more)
    (recorded : ∃ new, w'.books.recorded = w.books.recorded ++ new ∧
      ∀ i item result, new[i]? = some (item, result) →
        Stems (latest attempts (w.books.recorded.length + i)) result.outcome)
    (standing : Standing attempts w'.books.recorded.length w'.processor.task?)
    (fresh : w'.processor.stage = .fresh → w.processor.stage = .fresh) : InTurn w' attempts := by
  obtain ⟨more, hm⟩ := admitted
  obtain ⟨new, hn, hs⟩ := recorded
  have longer : w.books.recorded.length ≤ w'.books.recorded.length := by
    rw [hn, List.length_append]
    exact Nat.le_add_right _ _
  refine ⟨hm ▸ h.serial.later now longer more, standing, fun k item result hk => ?_,
    fun hf => h.fresh (fresh hf)⟩
  rw [hn] at hk
  by_cases hl : k < w.books.recorded.length
  · rw [List.getElem?_append_left hl] at hk
    exact h.stems k item result hk
  · have hge : w.books.recorded.length ≤ k := Nat.le_of_not_lt hl
    rw [List.getElem?_append_right hge] at hk
    have := hs _ item result hk
    rwa [Nat.add_sub_cancel' hge] at this

theorem of_same (h : InTurn w attempts) (now : w.now ≤ w'.now)
    (admitted : ∃ more, w'.books.admitted = w.books.admitted ++ more)
    (recorded : w'.books.recorded = w.books.recorded)
    (standing : Standing attempts w.books.recorded.length w'.processor.task?)
    (fresh : w'.processor.stage = .fresh → w.processor.stage = .fresh) : InTurn w' attempts :=
  h.of_books now admitted ⟨[], by rw [recorded, List.append_nil], nofun⟩ (recorded ▸ standing) fresh

/-- Neither a start nor the work of the worker, nor the beginning of a stop. -/
theorem of_worker (h : InTurn w attempts) (now : w.now ≤ w'.now)
    (admitted : ∃ more, w'.books.admitted = w.books.admitted ++ more)
    (recorded : w'.books.recorded = w.books.recorded)
    (worker : w'.processor.worker = w.processor.worker)
    (stage : w'.processor.stage = w.processor.stage) : InTurn w' attempts := by
  have task : w'.processor.task? = w.processor.task? := by simp only [task?, worker]
  refine h.of_same now admitted recorded ?_ (fun hf => stage ▸ hf)
  rw [task]
  exact h.standing

theorem stop (h : InTurn w attempts) (sound : Sound w.processor) : InTurn w.stop attempts := by
  have books : w.stop.books = w.books.watchStop w.processor := by
    simp only [World.stop, World.books_proceedStop]
  have now : w.stop.now = w.now := by
    simp only [World.stop, World.now_proceedStop]
    rfl
  have begun := w.processor.stopBegun w.setting
  have task : w.stop.processor.task? = w.processor.task? := by
    rw [task?, World.processor_stop, begun.worker, task?]
  have stage : w.stop.processor.stage ≠ .fresh := by
    rw [World.processor_stop, begun.stage, if_neg sound.kept]
    decide
  by_cases hs : w.processor.stage = .fresh
  · rw [Books.watchStop, if_pos hs] at books
    refine h.of_books (Nat.le_of_eq now.symm)
      ⟨[], by rw [books, Books.admitted_watchAnswers, List.append_nil]⟩
      ⟨_, by rw [books, Books.recorded_watchAnswers], fun i item result hi => ?_⟩ ?_
      (fun fresh => absurd fresh stage)
    · rw [List.getElem?_map] at hi
      obtain ⟨item', -, hi⟩ := Option.map_eq_some_iff.1 hi
      cases hi
      rw [h.fresh hs]
      exact .unstarted rfl
    · have none : w.processor.task? = none := by rw [task?, sound.fresh hs, Option.map_none]
      rw [task, none, h.fresh hs]
      exact fun t ht => absurd ht List.not_mem_nil
  · rw [Books.watchStop, if_neg hs] at books
    refine h.of_same (Nat.le_of_eq now.symm) ⟨[], by rw [books, List.append_nil]⟩ (by rw [books]) ?_
      (fun fresh => absurd fresh stage)
    rw [task]
    exact h.standing

/-- The item in work is the one whose turn it is, and all before it have been answered. -/
theorem turn_of_working {order : Order ι} {effort : Effort σ α} (booked : Booked w.processor w.books)
    (ht : w.processor.task? = some (.working order effort)) :
    w.books.decided.length = w.books.recorded.length ∧
      w.books.admitted[w.books.recorded.length]? = some order.item := by
  unfold Booked at booked
  rw [inWork_of_task ht, inHand_of_task ht] at booked
  have results := congrArg List.length booked.results
  simp only [Task.inHand, List.append_nil, List.length_map] at results
  refine ⟨results.symm, ?_⟩
  rw [booked.items, List.append_assoc, List.getElem?_append_right (by rw [List.length_map])]
  simp only [List.length_map, Nat.sub_self, Task.inWork, List.singleton_append,
    List.getElem?_cons_zero]

/-- A step of the worker in which nothing is noted. It may record an outcome that the
calls tell of. -/
theorem quiet {p : Processor ι σ α} {setting : Setting S} (h : InTurn w attempts)
    (hw : Worked op w.now w.processor w.setting p setting)
    (hn : w.processor.workNotes op w.now w.setting = [])
    (admitted : (w.books.watch w.processor p).admitted = w.books.admitted)
    (recorded : ∃ new, (w.books.watch w.processor p).recorded = w.books.recorded ++ new ∧
      ∀ i item result, new[i]? = some (item, result) →
        Stems (latest attempts (w.books.recorded.length + i)) result.outcome)
    (standing : Standing attempts (w.books.watch w.processor p).recorded.length p.task?) :
    InTurn { w with processor := p, setting := setting, books := w.books.watch w.processor p }
      ((w.processor.workNotes op w.now w.setting).foldl w.enter attempts) := by
  rw [hn]
  refine h.of_books (Nat.le_refl _) ⟨[], ?_⟩ recorded standing ?_
  · rw [List.append_nil]
    exact admitted
  · intro hf
    rw [← hw.steady.2.1]
    exact hf

theorem tried {order : Order ι} {effort effort' : Effort σ α} {drained : Option Nat}
    {setting : Setting S} (h : InTurn w attempts) (booked : Booked w.processor w.books)
    (sound : Sound w.processor) (hw : w.processor.worker = some ⟨.working order effort, drained⟩)
    (ho : effort.outcome? = none)
    (he : effort.step op w.processor.config order w.now w.setting = some (effort', setting)) :
    InTurn { w with
        processor := w.processor.assign (.working order effort') drained
        setting := setting
        books := w.books.watch w.processor (w.processor.assign (.working order effort') drained) }
      ((w.processor.workNotes op w.now w.setting).foldl w.enter attempts) := by
  have ht := task?_of_worker hw
  have tracks : Tracks attempts w.books.recorded.length effort.stance := by
    have standing := h.standing
    rw [ht] at standing
    exact standing
  have notes : w.processor.workNotes op w.now w.setting =
      effort.notes op w.processor.config order w.now w.setting := by
    simp only [workNotes, hw, ho, Option.isSome_none, Bool.false_eq_true, if_false]
  have books : w.books.watch w.processor (w.processor.assign (.working order effort') drained) =
      w.books := by
    simp only [Books.watch, ht, task?_assign]
  obtain ⟨hd, hi⟩ := turn_of_working booked ht
  obtain ⟨serial, tracks', others⟩ := tracks.moved h.serial (Effort.moved he) rfl hd hi
  rw [notes, books]
  refine ⟨serial, tracks', fun k item result hk => ?_, fun hf => ?_⟩
  · -- Only the calls for the item in work change, and its outcome is not recorded.
    obtain ⟨hl, -⟩ := List.getElem?_eq_some_iff.1 hk
    rw [others k (Nat.ne_of_lt hl)]
    exact h.stems k item result hk
  · have := sound.fresh hf
    rw [hw] at this
    cases this

/-- **A step of the worker** keeps the calls in order. -/
theorem work (h : InTurn w attempts) (booked : Booked w.processor w.books) (sound : Sound w.processor) :
    InTurn (w.work op) ((w.notes op .work).foldl w.enter attempts) := by
  rw [World.notes_work]
  unfold World.work
  cases hs : w.processor.workerStep op w.now w.setting with
  | none => exact h
  | some r =>
  obtain ⟨p, setting⟩ := r
  have standing := h.standing
  have hworked := Worked.of_workerStep hs
  simp only [Option.elim_some]
  cases Worked.of_workerStep hs with
  | began hw | turned hw _ | halted hw _ =>
    have ht := task?_of_worker hw
    rw [ht] at standing
    refine h.quiet hworked (by simp only [workNotes, hw]) ?_ ⟨[], ?_, nofun⟩ standing
    all_goals simp only [Books.watch, ht, task?_assign, List.append_nil]
  | took hw _ _ =>
    have ht := task?_of_worker hw
    rw [ht] at standing
    refine h.quiet hworked (by simp only [workNotes, hw]) ?_ ⟨[], ?_, nofun⟩ ?_
    · simp only [Books.watch, ht, task?_assign]
    · simp only [Books.watch, ht, task?_assign, List.append_nil]
    · cases hp : w.processor.config.policy <;> exact .ready standing
  | tried hw ho he => exact h.tried booked sound hw ho he
  | @concluded drained order effort outcome hw ho =>
    have ht := task?_of_worker hw
    rw [ht] at standing
    have hst : effort.stance = .done outcome := Effort.stance_of_outcome? ho
    simp only [Standing, hst] at standing
    cases standing with
    | done closed stems =>
    refine h.quiet hworked (by simp only [workNotes, hw, ho, Option.isSome_some, if_true]) ?_
      ⟨[(order.item, ⟨order.item.id, resultOf outcome, w.now - order.started⟩)], ?_, ?_⟩ closed
    · simp only [Books.watch, ht, conclude, task?_assign, Books.record]
    · simp only [Books.watch, ht, conclude, task?_assign, Books.record]
    · intro i item result hi
      obtain ⟨hl, hi⟩ := List.getElem?_eq_some_iff.1 hi
      obtain rfl : i = 0 := Nat.lt_one_iff.1 hl
      cases hi
      exact stems
  | delivered hw _ | discarded hw _ _ =>
    have ht := task?_of_worker hw
    rw [ht] at standing
    refine h.quiet hworked (by simp only [workNotes, hw]) ?_ ⟨[], ?_, nofun⟩ standing
    all_goals simp only [Books.watch, ht, task?_assign, Books.settle, List.append_nil]

theorem apply (h : InTurn w attempts) (booked : Booked w.processor w.books) (sound : Sound w.processor)
    (e : Event S ι) : InTurn (w.apply op e) ((w.notes op e).foldl w.enter attempts) := by
  have unchanged : ∃ more, w.books.admitted = w.books.admitted ++ more := ⟨[], (List.append_nil _).symm⟩
  by_cases hw : e = .work
  · subst hw
    exact h.work booked sound
  have unnoted : w.notes op e = [] := by cases e <;> first | rfl | exact absurd rfl hw
  rw [unnoted, List.foldl_nil]
  have m := World.Happened.of_apply op w e
  generalize w.apply op e = w' at m ⊢
  cases m with
  | worked => exact absurd rfl hw
  | ignored _ => exact h
  | admitted _ _ => exact h.of_worker (Nat.le_refl _) ⟨_, rfl⟩ rfl rfl rfl
  | started fresh =>
    refine h.of_same (Nat.le_refl _) ⟨[], (List.append_nil _).symm⟩ rfl ?_ nofun
    rw [h.fresh fresh]
    exact nofun
  | stopped => exact h.stop sound
  | @proceeded _ next _ hn =>
    obtain ⟨attended, hp⟩ := processor_of_continueStop hn
    refine h.of_worker (Nat.le_of_eq (World.now_proceedStop next).symm) ⟨[], ?_⟩ ?_ ?_ ?_
    · rw [World.books_proceedStop, List.append_nil]
    · rw [World.books_proceedStop]
    all_goals rw [World.processor_proceedStop, hp]
  | passed d => exact h.of_worker (Nat.le_add_right _ _) unchanged rfl rfl rfl
  | refused _ | gaveUp | aborted | claimed _ | read _ _ | unread _ | reported _ _ | around setting =>
    exact h.of_worker (Nat.le_refl _) unchanged rfl rfl rfl

end InTurn

/-- The calls are in order after every run. -/
theorem inTurn_play (op : Operation S (Item ι) σ α) (config : Config) (setting : Setting S)
    (events : List (Event S ι)) : InTurn (World.play op config setting events)
      (World.attempts op config setting events) := by
  induction events using List.reverseRecOn with
  | nil =>
    exact
      { serial := ⟨.nil, .nil, nofun, nofun⟩
        standing := nofun
        stems := nofun
        fresh := fun _ => rfl }
  | append_singleton events e ih =>
    rw [World.play_concat, World.attempts_concat]
    exact ih.apply (World.booked_play op config setting events)
      (World.orderly_play op config setting events).sound e

/-- What holds of the calls of a world and of the results that it has delivered. -/
structure InOrder (w : World S ι σ α) (attempts : List (Attempt ι α)) : Prop where
  /-- Of two calls, the earlier one has ended before the later one begins. -/
  apart : attempts.Pairwise fun u t =>
    ∃ at_ outcome, t.ended = some (at_, outcome) ∧ t.began ≤ at_ ∧ at_ ≤ u.began
  /-- A call for an item begins when as many outcomes have been recorded, and as many
  results delivered or discarded, as items were admitted before it. -/
  turn : ∀ t ∈ attempts, t.decided = t.recorded ∧ w.books.admitted[t.recorded]? = some t.item
  ascending : attempts.Pairwise fun u t => t.recorded ≤ u.recorded
  /-- Outcomes are recorded in the order of admission. -/
  recorded : w.books.recorded.map (·.1) <+: w.books.admitted
  /-- Results are delivered or discarded in the order in which they are recorded. -/
  decided : w.books.decided.map (·.1) <+: w.books.recorded.map (·.2)
  /-- What was ever put into the output queue was read, went away, or is there. -/
  output : w.books.delivered = w.books.received ++ w.books.destroyed ++ w.processor.output
  /-- It belongs to items at ever later positions, each with its own item's name and
  with what came of the latest call for that item. -/
  delivered : ∃ position : Nat → Nat, StrictMono position ∧
    ∀ i result, w.books.delivered[i]? = some result → ∃ item,
      w.books.admitted[position i]? = some item ∧
      w.books.recorded[position i]? = some (item, result) ∧ result.id = item.id ∧
      Stems (latest attempts (position i)) result.outcome

theorem InTurn.inOrder {w : World S ι σ α} {attempts : List (Attempt ι α)} (h : InTurn w attempts)
    (booked : Booked w.processor w.books) : InOrder w attempts := by
  unfold Booked at booked
  have recorded : w.books.recorded.map (·.1) <+: w.books.admitted := by
    rw [booked.items, List.append_assoc]
    exact List.prefix_append _ _
  have decided : w.books.decided.map (·.1) <+: w.books.recorded.map (·.2) := by
    rw [booked.results]
    exact List.prefix_append _ _
  have delivered : w.books.delivered.Sublist (w.books.recorded.map (·.2)) :=
    (List.filter_sublist.map _).trans decided.sublist
  obtain ⟨position, hp⟩ := List.sublist_iff_exists_orderEmbedding_getElem?_eq.1 delivered
  refine
    { apart := h.serial.apart
      turn := fun t ht => (h.serial.turn t ht).2
      ascending := h.serial.ascending
      recorded := recorded
      decided := decided
      output := booked.delivered
      delivered := ⟨position, position.strictMono, fun i result hi => ?_⟩ }
  rw [hp i, List.getElem?_map] at hi
  obtain ⟨⟨item, result'⟩, hr, rfl⟩ := Option.map_eq_some_iff.1 hi
  have admitted : w.books.admitted[position i]? = some item := by
    obtain ⟨rest, hrest⟩ := recorded
    obtain ⟨hl, -⟩ := List.getElem?_eq_some_iff.1 hr
    rw [← hrest, List.getElem?_append_left (by rw [List.length_map]; exact hl), List.getElem?_map, hr,
      Option.map_some]
  exact ⟨item, admitted, hr, booked.named _ (List.mem_of_getElem? hr), h.stems _ _ _ hr⟩

/-- **One item at a time, in the order of admission.** Whatever the operation does and
in whatever order things happen, calls never overlap, each is made in its item's turn,
and results come out in the same order. -/
theorem play_inOrder (op : Operation S (Item ι) σ α) (config : Config) (setting : Setting S)
    (events : List (Event S ι)) : InOrder (World.play op config setting events)
      (World.attempts op config setting events) :=
  (inTurn_play op config setting events).inOrder (World.booked_play op config setting events)

/-- The first of two items is tried twice, and the second one once after that. -/
example :
    let op : Operation Unit (Item Nat) (Scope × Activity Nat) Nat :=
      .scripted (fun _ n => .finish (if n = 1 then .failure (.plain "connection reset") else .value 7))
        (fun _ _ s => s) (fun _ s => s)
    let config : Config := ⟨2, 9, some (.new 8 0 0 0), [], none, by decide, by decide, by decide, nofun⟩
    let events : List (Event Unit Nat) :=
      [.submit "a" 1, .submit "b" 2, .start, .work, .work, .work, .pass 3, .work, .work, .work, .work,
        .work, .work]
    (World.attempts op config ⟨.empty, [], ()⟩ events).map
        (fun t => (t.item.id, t.recorded, t.began, t.ended.map (·.1))) =
      [("b", 1, 3, some 3), ("a", 0, 3, some 3), ("a", 0, 0, some 0)] := by
  decide +kernel

end CallGuard.Processor
