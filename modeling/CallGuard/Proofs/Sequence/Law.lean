/-
The law of a tracker among its callers. It serves them one at a time, in the
order of their requests, and is busy for the whole of a refetch. Every number it
hands out is the one its history tells.
-/
import CallGuard.Proofs.Sequence.Steps
import CallGuard.Proofs.Sequence.World

namespace CallGuard.Sequence

variable {S σ : Type}

/-! ## The line of callers -/

/-- The tickets of all who were served, who keeps the tracker busy, and who waits. -/
def Tracker.line (t : Tracker σ) : List Nat :=
  t.replies.reverse.map (·.ticket) ++ t.busy.toList.map (·.ticket) ++ t.waiting.map (·.1)

/-- Callers stand in line in the order of their tickets, and each for what it
asked. -/
structure InLine (w : World S σ) : Prop where
  counted : w.asked.length = w.tracker.tickets
  ordered : w.tracker.line.Pairwise (· < ·)
  bounded : ∀ k ∈ w.tracker.line, k < w.tracker.tickets
  present : ∀ k < w.tracker.tickets, k ∈ w.tracker.line ∨ k ∈ w.gone
  answered : ∀ r ∈ w.tracker.replies, ∃ q, w.asked[r.ticket]? = some q ∧ Suits q r.answer
  waiting : ∀ p ∈ w.tracker.waiting, w.asked[p.1]? = some p.2
  busy : ∀ b, w.tracker.busy = some b → ∃ scope, w.asked[b.ticket]? = some (.refetch scope)

namespace Tracker

variable {t : Tracker σ}

theorem mem_line_of_reply {r : Reply} (h : r ∈ t.replies) : r.ticket ∈ t.line :=
  List.mem_append_left _ (List.mem_append_left _ (List.mem_map_of_mem (List.mem_reverse.2 h)))

theorem mem_line_of_busy {b : Refetch σ} (h : t.busy = some b) : b.ticket ∈ t.line := by
  refine List.mem_append_left _ (List.mem_append_right _ ?_)
  rw [h]
  exact List.mem_singleton_self _

/-- Whoever was served stood in line before whoever keeps the tracker busy. -/
theorem served_lt_busy (ordered : t.line.Pairwise (· < ·)) {b : Refetch σ} (h : t.busy = some b)
    {r : Reply} (hr : r ∈ t.replies) : r.ticket < b.ticket := by
  have front := (List.pairwise_append.1 ordered).1
  refine (List.pairwise_append.1 front).2.2 r.ticket ?_ b.ticket ?_
  · exact List.mem_map_of_mem (List.mem_reverse.2 hr)
  · rw [h]
    exact List.mem_singleton_self _

/-- The latest answer was for the last in line of all who were served. -/
theorem replies_descending (ordered : t.line.Pairwise (· < ·)) :
    t.replies.Pairwise fun later earlier => earlier.ticket < later.ticket := by
  have served := (List.pairwise_append.1 (List.pairwise_append.1 ordered).1).1
  rw [List.pairwise_map, List.pairwise_reverse] at served
  exact served

theorem line_reply {ticket : Nat} {waiting} (idle : t.busy = none) (now : Nat) (answer : Answer)
    (record : Record) (untouched : Bool) (h : t.waiting.map (·.1) = ticket :: waiting.map (·.1)) :
    ({ t with waiting := waiting, record := record, untouched := untouched }.reply ticket now answer).line =
      t.line := by
  simp only [line, reply, idle, h, List.reverse_cons, List.map_append, List.map_cons, List.map_nil,
    Option.toList_none, List.append_nil, List.append_assoc, List.cons_append, List.nil_append]

theorem line_busy {b : Refetch σ} {waiting} (idle : t.busy = none)
    (h : t.waiting.map (·.1) = b.ticket :: waiting.map (·.1)) :
    { t with waiting := waiting, busy := some b }.line = t.line := by
  simp only [line, idle, h, Option.toList_none, Option.toList_some, List.map_cons, List.map_nil,
    List.append_nil, List.append_assoc, List.cons_append, List.nil_append]

theorem line_conclude {b : Refetch σ} (h : t.busy = some b) (now : Nat) (answer : Answer)
    (record : Record) (refetchedAt : Option Nat) :
    ({ t with busy := none, record := record, refetchedAt := refetchedAt }.reply b.ticket now answer).line =
      t.line := by
  simp only [line, reply, h, List.reverse_cons, List.map_append, List.map_cons, List.map_nil,
    Option.toList_none, Option.toList_some, List.append_nil, List.append_assoc]

theorem line_fetch {busy : Option (Refetch σ)} (h : busy.map (·.ticket) = t.busy.map (·.ticket))
    (strays : List (Refetch σ)) (started : Nat) :
    { t with busy := busy, strays := strays, started := started }.line = t.line := by
  simp only [line, ← Option.toList_map, h]

theorem line_request (r : Request) (t : Tracker σ) : (t.request r).2.line = t.line ++ [t.tickets] := by
  simp only [line, request, List.map_append, List.map_cons, List.map_nil, List.append_assoc]

theorem line_abandon (ticket : Nat) (t : Tracker σ) : (t.abandon ticket).line.Sublist t.line := by
  obtain ⟨busy, strays, he, hb⟩ := t.abandon_cases ticket
  rw [he]
  refine List.Sublist.append (List.Sublist.append (List.Sublist.refl _) ?_) ?_
  · rcases hb with rfl | ⟨rfl, -⟩
    · exact List.Sublist.refl _
    · exact List.nil_sublist _
  · exact List.filter_sublist.map _

theorem mem_line_abandon (ticket : Nat) {k : Nat} (h : k ∈ t.line) :
    k ∈ (t.abandon ticket).line ∨ k = ticket := by
  obtain ⟨busy, strays, he, hb⟩ := t.abandon_cases ticket
  rw [he]
  simp only [line, List.mem_append] at h ⊢
  rcases h with (h | h) | h
  · exact .inl (.inl (.inl h))
  · rcases hb with rfl | ⟨-, own⟩
    · exact .inl (.inl (.inr h))
    · rw [← Option.toList_map, own] at h
      exact .inr (List.mem_singleton.1 h)
  · obtain ⟨p, hp, rfl⟩ := List.mem_map.1 h
    by_cases own : p.1 = ticket
    · exact .inr own
    · refine .inl (.inr (List.mem_map_of_mem (List.mem_filter.2 ⟨hp, ?_⟩)))
      exact bne_iff_ne.2 own

end Tracker

/-! ## Runs -/

/-- Callers are in line, and the tracker is as its history tells. -/
structure Steady (w : World S σ) : Prop where
  line : InLine w
  kept : Kept w.tracker.record w.tracker.untouched w.history

namespace Steady

variable {source : Operation S Unit σ Record} {w : World S σ}

theorem initial (pacing : Pacing) (setting : Setting S) : Steady (World.initial pacing setting : World S σ) where
  line := ⟨rfl, .nil, nofun, nofun, nofun, nofun, nofun⟩
  kept := .new

theorem line_same (h : InLine w) {t : Tracker σ} {setting : Setting S}
    (tickets : t.tickets = w.tracker.tickets) (line : t.line = w.tracker.line)
    (answered : ∀ r ∈ t.replies, r ∈ w.tracker.replies ∨
      ∃ q, w.asked[r.ticket]? = some q ∧ Suits q r.answer)
    (waiting : ∀ p ∈ t.waiting, p ∈ w.tracker.waiting)
    (busy : ∀ b, t.busy = some b → ∃ scope, w.asked[b.ticket]? = some (.refetch scope)) :
    InLine { w with tracker := t, setting := setting } where
  counted := h.counted.trans tickets.symm
  ordered := by
    rw [line]
    exact h.ordered
  bounded k hk := by
    rw [line] at hk
    rw [tickets]
    exact h.bounded k hk
  present k hk := by
    rw [tickets] at hk
    rw [line]
    exact h.present k hk
  answered r hr := by
    rcases answered r hr with old | suits
    · exact h.answered r old
    · exact suits
  waiting p hp := h.waiting p (waiting p hp)
  busy := busy

theorem asked_of_mem_line (h : InLine w) (r : Request) {k : Nat} (hk : k ∈ w.tracker.line) :
    (w.asked ++ [r])[k]? = w.asked[k]? := by
  refine List.getElem?_append_left ?_
  rw [h.counted]
  exact h.bounded k hk

theorem line_request (h : InLine w) (r : Request) : InLine (w.apply source (.request r)) where
  counted := by
    show (w.asked ++ [r]).length = w.tracker.tickets + 1
    rw [List.length_append, h.counted]
    rfl
  ordered := by
    show (w.tracker.request r).2.line.Pairwise (· < ·)
    rw [w.tracker.line_request r, List.pairwise_append]
    refine ⟨h.ordered, List.pairwise_singleton _ _, fun k hk n hn => ?_⟩
    rw [List.mem_singleton.1 hn]
    exact h.bounded k hk
  bounded k hk := by
    show k < w.tracker.tickets + 1
    rw [World.apply, w.tracker.line_request r] at hk
    rcases List.mem_append.1 hk with hk | hk
    · exact Nat.lt_succ_of_lt (h.bounded k hk)
    · rw [List.mem_singleton.1 hk]
      exact Nat.lt_succ_self _
  present k hk := by
    show k ∈ (w.tracker.request r).2.line ∨ k ∈ w.gone
    rw [w.tracker.line_request r, List.mem_append, List.mem_singleton]
    rcases Nat.lt_succ_iff_lt_or_eq.1 hk with hk | rfl
    · rcases h.present k hk with hk | hk
      · exact .inl (.inl hk)
      · exact .inr hk
    · exact .inl (.inr rfl)
  answered reply hr := by
    obtain ⟨q, hq, suits⟩ := h.answered reply hr
    refine ⟨q, ?_, suits⟩
    show (w.asked ++ [r])[reply.ticket]? = _
    rw [asked_of_mem_line h r (Tracker.mem_line_of_reply hr)]
    exact hq
  waiting p hp := by
    show (w.asked ++ [r])[p.1]? = some p.2
    rcases List.mem_append.1 hp with hp | hp
    · rw [asked_of_mem_line h r (List.mem_append_right _ (List.mem_map_of_mem hp))]
      exact h.waiting p hp
    · rw [List.mem_singleton.1 hp, ← h.counted]
      exact List.getElem?_concat_length
  busy b hb := by
    obtain ⟨scope, hs⟩ := h.busy b hb
    refine ⟨scope, ?_⟩
    show (w.asked ++ [r])[b.ticket]? = _
    rw [asked_of_mem_line h r (Tracker.mem_line_of_busy hb)]
    exact hs

theorem request (h : Steady w) (r : Request) : Steady (w.apply source (.request r)) where
  line := line_request h.line r
  kept := by
    have history : (w.apply source (.request r)).history = w.history := by
      refine List.map_congr_left fun reply hr => ?_
      show Deed.of _ _ = Deed.of _ _
      rw [World.apply, asked_of_mem_line h.line r (Tracker.mem_line_of_reply hr)]
    rw [history]
    exact h.kept

theorem grant (h : Steady w) : Steady (w.apply source .grant) := by
  simp only [World.apply]
  cases hg : w.tracker.grant? w.now w.setting with
  | none => exact h
  | some next =>
    obtain ⟨t, setting⟩ := next
    obtain ⟨ticket, request, waiting, idle, hw, rfl⟩ := Tracker.grant?_eq_some hg
    have asked : w.asked[ticket]? = some request :=
      h.line.waiting (ticket, request) (by rw [hw]; exact List.mem_cons_self)
    have tickets : w.tracker.waiting.map (·.1) = ticket :: waiting.map (·.1) := by rw [hw, List.map_cons]
    have later (p) (hp : p ∈ waiting) : p ∈ w.tracker.waiting := by
      rw [hw]
      exact List.mem_cons_of_mem _ hp
    rcases Tracker.serve_cases (t := { w.tracker with waiting := waiting }) idle h.kept ticket w.now
      w.setting request with ⟨answer, record, untouched, he, k, suits⟩ | ⟨scope, own, hr, he⟩
    · rw [World.put, he]
      have line := Tracker.line_reply idle w.now answer record untouched tickets
      refine ⟨line_same h.line rfl line (fun r hr => ?_) later h.line.busy, ?_⟩
      · rcases List.mem_cons.1 hr with rfl | hr
        · exact .inr ⟨request, asked, suits⟩
        · exact .inl hr
      · rw [← asked] at k
        exact k
    · rw [World.put, he]
      have line := Tracker.line_busy (b := ⟨ticket, own, .due⟩) idle tickets
      refine ⟨line_same h.line rfl line (fun r hr => .inl hr) later fun b hb => ?_, h.kept⟩
      cases hb
      exact ⟨scope, by rw [asked, hr]⟩

theorem conclude (h : Steady w) : Steady (w.apply source .conclude) := by
  simp only [World.apply]
  cases hc : w.tracker.conclude? source w.now w.setting with
  | none => exact h
  | some next =>
    obtain ⟨t, setting⟩ := next
    obtain ⟨b, answer, record, refetchedAt, hb, rfl, k⟩ := Tracker.conclude?_cases h.kept hc
    obtain ⟨scope, asked⟩ := h.line.busy b hb
    have line := Tracker.line_conclude hb w.now answer record refetchedAt
    obtain ⟨k, suits⟩ := k scope
    refine ⟨line_same h.line rfl line (fun r hr => ?_) (fun p hp => hp) nofun, ?_⟩
    · rcases List.mem_cons.1 hr with rfl | hr
      · exact .inr ⟨_, asked, suits⟩
      · exact .inl hr
    · rw [← asked] at k
      exact k

theorem fetch (h : Steady w) : Steady (w.apply source .fetch) := by
  simp only [World.apply]
  cases hf : w.tracker.fetchStep? source w.now w.setting with
  | none => exact h
  | some next =>
    obtain ⟨t, setting⟩ := next
    obtain ⟨busy, strays, started, rfl, hb⟩ := Tracker.fetchStep?_cases hf
    have line := Tracker.line_fetch hb strays started
    refine ⟨line_same h.line rfl line (fun r hr => .inl hr) (fun p hp => hp) fun b hbusy => ?_,
      h.kept⟩
    rw [show busy = some b from hbusy] at hb
    obtain ⟨b', hb', ht⟩ := Option.map_eq_some_iff.1 hb.symm
    simp only at ht
    rw [← ht]
    exact h.line.busy b' hb'

theorem abandon (h : Steady w) (ticket : Nat) : Steady (w.apply source (.abandon ticket)) := by
  have line := Tracker.line_abandon ticket w.tracker
  have place (k : Nat) (hk : k ∈ w.tracker.line) := Tracker.mem_line_abandon ticket hk
  obtain ⟨busy, strays, he, hb⟩ := w.tracker.abandon_cases ticket
  simp only [World.apply]
  rw [he] at line place ⊢
  refine ⟨⟨h.line.counted, h.line.ordered.sublist line, fun k hk => h.line.bounded k (line.subset hk),
    fun k hk => ?_, h.line.answered, fun p hp => h.line.waiting p (List.mem_filter.1 hp).1,
    fun b hbusy => ?_⟩, h.kept⟩
  · rcases h.line.present k hk with hk | hk
    · rcases place k hk with hk | rfl
      · exact .inl hk
      · exact .inr List.mem_cons_self
    · exact .inr (List.mem_cons_of_mem _ hk)
  · rcases hb with rfl | ⟨rfl, -⟩
    · exact h.line.busy b hbusy
    · cases hbusy

theorem apply (h : Steady w) (e : Event S) : Steady (w.apply source e) := by
  cases e with
  | request r => exact h.request r
  | grant => exact h.grant
  | fetch => exact h.fetch
  | conclude => exact h.conclude
  | abandon ticket => exact h.abandon ticket
  | pass d | around setting =>
    exact ⟨⟨h.line.counted, h.line.ordered, h.line.bounded, h.line.present, h.line.answered,
      h.line.waiting, h.line.busy⟩, h.kept⟩

end Steady

/-- The tracker is as its history tells after every run. -/
theorem steady_play (source : Operation S Unit σ Record) (pacing : Pacing) (setting : Setting S)
    (events : List (Event S)) : Steady (World.play source pacing setting events) := by
  induction events using List.reverseRecOn with
  | nil => exact .initial pacing setting
  | append_singleton events e ih =>
    rw [World.play_concat]
    exact ih.apply e

theorem Steady.served {w : World S σ} (h : Steady w) (source : Operation S Unit σ Record) {ticket : Nat}
    {waiting : List (Nat × Request)} (idle : w.tracker.busy = none)
    (first : w.tracker.waiting = (ticket, .next) :: waiting) :
    ∃ r, (w.apply source .grant).tracker.replies = ⟨ticket, w.now, .record r⟩ :: w.tracker.replies ∧
      (w.apply source .grant).history = .handed r :: w.history := by
  have asked : w.asked[ticket]? = some .next :=
    h.line.waiting (ticket, .next) (by rw [first]; exact List.mem_cons_self)
  have granted : w.apply source .grant = w.put (some
      ({ w.tracker with waiting := waiting }.serve ticket w.now w.setting .next)) := by
    simp only [World.apply, Tracker.grant?, idle, first]
  rw [granted]
  refine ⟨_, rfl, ?_⟩
  show Deed.of w.asked[ticket]? _ :: w.history = _
  rw [asked]
  rfl

/-- The law of the numbers that a tracker hands out. -/
structure Lawful (source : Operation S Unit σ Record) (pacing : Pacing) (setting : Setting S)
    (events : List (Event S)) (w : World S σ) : Prop where
  /-- Callers are served one at a time, in the order of their requests. -/
  inOrder : w.tracker.line.Pairwise (· < ·)
  /-- Nobody is passed over: all stand in line but those who went away. -/
  present : ∀ k < w.tracker.tickets, k ∈ w.tracker.line ∨ k ∈ w.gone
  /-- What a caller gets is what it asked for. -/
  answered : ∀ r ∈ w.tracker.replies, ∃ q, w.asked[r.ticket]? = some q ∧ Suits q r.answer
  /-- Whoever wants a number and is first gets one, if the tracker is not busy. -/
  served : ∀ ticket waiting, w.tracker.busy = none → w.tracker.waiting = (ticket, .next) :: waiting →
    ∃ r, (w.apply source .grant).tracker.replies = ⟨ticket, w.now, .record r⟩ :: w.tracker.replies ∧
      (w.apply source .grant).history = .handed r :: w.history
  /-- What a caller gets is told by what was done before, if the number last set has
  64 bits. -/
  handed : ∀ r before, .handed r :: before <:+ w.history → r.account = History.account before ∧
    (History.base before ≤ Word.last →
      r.sequence = min (History.base before + History.steps (.handed r :: before)) Word.last)
  /-- Between two overwrites the numbers follow one another. -/
  consecutive : ∀ r between r' older, .handed r :: (between ++ .handed r' :: older) <:+ w.history →
    (∀ d ∈ between, d.isSet = false) →
      r.sequence = min (r'.sequence + between.countP (·.isHanded) + 1) Word.last
  /-- Between two overwrites none below the last number is handed out twice. -/
  fresh : ∀ r between r' older, .handed r :: (between ++ .handed r' :: older) <:+ w.history →
    (∀ d ∈ between, d.isSet = false) → r'.sequence < Word.last → r'.sequence < r.sequence
  /-- Whoever makes a request while a refetch is under way is not served as long as
  it is. -/
  waits : ∀ before request after, events = before ++ .request request :: after →
    ∀ b b', (World.play source pacing setting before).tracker.busy = some b →
      w.tracker.busy = some b' → b'.ticket = b.ticket →
        ∀ r ∈ w.tracker.replies, r.ticket ≠ (World.play source pacing setting before).tracker.tickets

/-- **The numbers handed out.** Whoever asks for what and in whatever order, each
caller gets the number that the history tells. -/
theorem play_lawful (source : Operation S Unit σ Record) (pacing : Pacing) (setting : Setting S)
    (events : List (Event S)) :
    Lawful source pacing setting events (World.play source pacing setting events) := by
  have steady := steady_play source pacing setting events
  have consecutive (r : Record) (between : History) (r' : Record) (older : History)
      (hs : .handed r :: (between ++ .handed r' :: older) <:+
        (World.play source pacing setting events).history)
      (hb : ∀ d ∈ between, d.isSet = false) :
      r.sequence = min (r'.sequence + between.countP (·.isHanded) + 1) Word.last :=
    steady.kept.inStep.between hs hb
  refine ⟨steady.line.ordered, steady.line.present, steady.line.answered, ?_, ?_, consecutive, ?_, ?_⟩
  · intro ticket waiting idle first
    exact steady.served source idle first
  · intro r before hs
    obtain ⟨account, sequence⟩ := steady.kept.inStep r before hs
    refine ⟨account, fun fits => ?_⟩
    rw [sequence, History.stepped_of_le fits]
  · intro r between r' older hs hb below
    rw [consecutive r between r' older hs hb]
    omega
  · -- The new ticket comes after the one that keeps the tracker busy.
    intro before request after _ b b' hb hb' same r hr
    have behind := (steady_play source pacing setting before).line.bounded b.ticket
      (Tracker.mem_line_of_busy hb)
    have served := Tracker.served_lt_busy steady.line.ordered hb' hr
    omega

/-- A refetch sets the number for whoever waits; one that is refused does not. -/
theorem renewed_lawful :
    let w := World.play tens .eachSecond ⟨⟨1, []⟩, [], ()⟩ renewed
    Lawful tens .eachSecond ⟨⟨1, []⟩, [], ()⟩ renewed w ∧
      w.history = [.handed ⟨21, 7⟩, .refetched ⟨20, 7⟩, .handed ⟨12, 7⟩, .told, .handed ⟨11, 7⟩,
        .refetched ⟨10, 7⟩, .handed ⟨0, 0⟩] :=
  ⟨play_lawful tens .eachSecond ⟨⟨1, []⟩, [], ()⟩ renewed, rfl⟩

end CallGuard.Sequence
