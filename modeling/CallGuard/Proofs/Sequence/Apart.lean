/-
Whose fetch is whose: everybody who waits, has the tracker or left a fetch behind has a
place of their own, in the order of the tickets, and leaves it for good when they are
answered.
-/
import CallGuard.Proofs.Sequence.Moves

namespace CallGuard.Sequence

variable {S σ : Type}

/-- The tickets of all whose fetches may go on, and of all who wait. -/
def Tracker.places (t : Tracker σ) : List Nat := t.fetching.map (·.ticket) ++ t.waiting.map (·.1)

namespace Tracker

variable {t : Tracker σ}

theorem mem_places_of_fetching {b : Refetch σ} (h : b ∈ t.fetching) : b.ticket ∈ t.places :=
  List.mem_append_left _ (List.mem_map_of_mem h)

theorem mem_places_of_waiting {p : Nat × Request} (h : p ∈ t.waiting) : p.1 ∈ t.places :=
  List.mem_append_right _ (List.mem_map_of_mem h)

theorem fetching_of_idle (idle : t.busy = none) : t.fetching = t.strays := by
  rw [fetching, idle, Option.toList_none, List.append_nil]

theorem fetching_of_busy {b : Refetch σ} (busy : t.busy = some b) : t.fetching = t.strays ++ [b] := by
  rw [fetching, busy, Option.toList_some]

theorem places_of_idle (idle : t.busy = none) :
    t.places = t.strays.map (·.ticket) ++ t.waiting.map (·.1) := by
  rw [places, fetching_of_idle idle]

theorem fetching_abandon (t : Tracker σ) (ticket : Nat) : (t.abandon ticket).fetching = t.fetching := by
  by_cases own : t.Serves ticket
  · obtain ⟨b, busy, rfl⟩ := Option.map_eq_some_iff.1 own
    rw [abandon_of_busy busy, fetching_of_busy busy, fetching_of_idle rfl]
  · rw [abandon_of_not_serves own]
    rfl

theorem places_abandon (t : Tracker σ) (ticket : Nat) : (t.abandon ticket).places.Sublist t.places := by
  rw [places, fetching_abandon, (t.abandon_kept ticket).2.2.2.2]
  exact List.Sublist.append (List.Sublist.refl _) (List.filter_sublist.map _)

end Tracker

/-- Everybody has a place of their own until they are answered, in the order of the
tickets; the fetches left behind are of callers that went away. -/
structure Apart (w : World S σ) : Prop where
  ordered : w.tracker.places.Pairwise (· < ·)
  unanswered : ∀ r ∈ w.tracker.replies, r.ticket ∉ w.tracker.places
  issued : (∀ k ∈ w.tracker.places, k < w.tracker.tickets) ∧
    ∀ r ∈ w.tracker.replies, r.ticket < w.tracker.tickets
  gone : ∀ b ∈ w.tracker.strays, b.ticket ∈ w.gone

namespace Apart

variable {w w' : World S σ} {e : Event S}

theorem initial (pacing : Pacing) (setting : Setting S) : Apart (World.initial pacing setting : World S σ) where
  ordered := .nil
  unanswered := nofun
  issued := ⟨nofun, nofun⟩
  gone := nofun

theorem same (h : Apart w) (places : w'.tracker.places.Sublist w.tracker.places)
    (replies : w'.tracker.replies = w.tracker.replies) (tickets : w'.tracker.tickets = w.tracker.tickets)
    (gone : ∀ b ∈ w'.tracker.strays, b.ticket ∈ w'.gone) : Apart w' where
  ordered := h.ordered.sublist places
  unanswered r hr hk := h.unanswered r (replies ▸ hr) (places.subset hk)
  issued := by
    rw [replies, tickets]
    exact ⟨fun k hk => h.issued.1 k (places.subset hk), h.issued.2⟩
  gone := gone

theorem answered (h : Apart w) {front rest : List Nat} {reply : Reply}
    (before : w.tracker.places = front ++ reply.ticket :: rest)
    (after : w'.tracker.places = front ++ rest)
    (replies : w'.tracker.replies = reply :: w.tracker.replies)
    (tickets : w'.tracker.tickets = w.tracker.tickets)
    (gone : ∀ b ∈ w'.tracker.strays, b.ticket ∈ w'.gone) : Apart w' := by
  have places : w'.tracker.places.Sublist w.tracker.places := by
    rw [before, after]
    exact List.Sublist.append (List.Sublist.refl _) (List.sublist_cons_self _ _)
  have own : reply.ticket ∈ w.tracker.places := by
    rw [before]
    exact List.mem_append_right _ List.mem_cons_self
  have single : reply.ticket ∉ w'.tracker.places := by
    have ordered := h.ordered
    rw [before, List.pairwise_append] at ordered
    rw [after]
    intro hk
    rcases List.mem_append.1 hk with hk | hk
    · exact Nat.lt_irrefl _ (ordered.2.2 _ hk _ List.mem_cons_self)
    · exact Nat.lt_irrefl _ ((List.pairwise_cons.1 ordered.2.1).1 _ hk)
  refine ⟨h.ordered.sublist places, fun r hr hk => ?_, ⟨fun k hk => ?_, fun r hr => ?_⟩, gone⟩
  · rw [replies] at hr
    rcases List.mem_cons.1 hr with rfl | hr
    · exact single hk
    · exact h.unanswered r hr (places.subset hk)
  · rw [tickets]
    exact h.issued.1 k (places.subset hk)
  · rw [replies] at hr
    rw [tickets]
    rcases List.mem_cons.1 hr with rfl | hr
    · exact h.issued.1 _ own
    · exact h.issued.2 r hr

/-- Whoever waits came after all whose fetches go on. -/
theorem lt_waiting (h : Apart w) {b : Refetch σ} (hb : b ∈ w.tracker.fetching) {p : Nat × Request}
    (hp : p ∈ w.tracker.waiting) : b.ticket < p.1 :=
  (List.pairwise_append.1 h.ordered).2.2 b.ticket (List.mem_map_of_mem hb) p.1 (List.mem_map_of_mem hp)

theorem other (h : Apart w) {front rest : List (Refetch σ)} {b b' c : Refetch σ}
    (fetching : w.tracker.fetching = front ++ b :: rest) (hc : c ∈ front ++ b' :: rest) :
    c = b' ∨ c ∈ w.tracker.fetching ∧ c.ticket ≠ b.ticket := by
  have ordered := (List.pairwise_append.1 h.ordered).1
  rw [fetching, List.map_append, List.map_cons, List.pairwise_append, List.pairwise_cons] at ordered
  rw [fetching]
  rcases List.mem_append.1 hc with hc | hc
  · have before := ordered.2.2 c.ticket (List.mem_map_of_mem hc) b.ticket List.mem_cons_self
    exact .inr ⟨List.mem_append_left _ hc, Nat.ne_of_lt before⟩
  · rcases List.mem_cons.1 hc with rfl | hc
    · exact .inl rfl
    · have behind := ordered.2.1.1 c.ticket (List.mem_map_of_mem hc)
      exact .inr ⟨List.mem_append_right _ (List.mem_cons_of_mem _ hc), Nat.ne_of_gt behind⟩

theorem granted (h : Apart w) {t : Tracker σ} {setting : Setting S}
    (hg : Tracker.Granted w.now w.tracker w.setting t setting) :
    Apart { w with tracker := t, setting := setting } := by
  have before {ticket request waiting} (idle : w.tracker.busy = none)
      (first : w.tracker.waiting = (ticket, request) :: waiting) :
      w.tracker.places = w.tracker.strays.map (·.ticket) ++ ticket :: waiting.map (·.1) := by
    rw [Tracker.places_of_idle idle, first, List.map_cons]
  cases hg with
  | answered idle first _ _ _ _ =>
    exact h.answered (before idle first) (Tracker.places_of_idle idle) rfl rfl h.gone
  | throttled idle first _ =>
    exact h.answered (before idle first) (Tracker.places_of_idle idle) rfl rfl h.gone
  | barred idle first _ => exact h.answered (before idle first) (Tracker.places_of_idle rfl) rfl rfl h.gone
  | letIn idle first _ =>
    -- The caller only goes over from those who wait to those whose fetches go on.
    refine h.same ?_ rfl rfl h.gone
    rw [before idle first, Tracker.places, Tracker.fetching_of_busy rfl, List.map_append, List.append_assoc]
    exact List.Sublist.refl _

theorem concluded (h : Apart w) {t : Tracker σ} {setting : Setting S}
    (hc : Tracker.Concluded w.now w.tracker t) : Apart { w with tracker := t, setting := setting } := by
  have before {b} (busy : w.tracker.busy = some b) : w.tracker.places =
      w.tracker.strays.map (·.ticket) ++ b.ticket :: w.tracker.waiting.map (·.1) := by
    rw [Tracker.places, Tracker.fetching_of_busy busy, List.map_append, List.append_assoc]
    rfl
  cases hc with
  | refreshed busy _ => exact h.answered (before busy) (Tracker.places_of_idle rfl) rfl rfl h.gone
  | failed busy _ => exact h.answered (before busy) (Tracker.places_of_idle rfl) rfl rfl h.gone

theorem advanced (h : Apart w) {t : Tracker σ} {setting : Setting S}
    (ha : Tracker.Advanced w.tracker t) : Apart { w with tracker := t, setting := setting } := by
  obtain ⟨-, replies, waiting, tickets, -⟩ := ha.kept
  obtain ⟨front, b, b', rest, old, new, hs⟩ := ha.fetching
  refine h.same ?_ replies tickets fun c hc => ?_
  · have : t.places = w.tracker.places := by
      rw [Tracker.places, Tracker.places, old, new, waiting, List.map_append, List.map_append, List.map_cons,
        List.map_cons, hs.ticket]
    exact this ▸ List.Sublist.refl _
  · cases ha with
    | ran _ _ => exact h.gone c hc
    | strayed he hs =>
      rcases List.mem_append.1 hc with hc | hc
      · exact h.gone c (he ▸ List.mem_append_left _ hc)
      · rcases List.mem_cons.1 hc with rfl | hc
        · rw [hs.ticket]
          exact h.gone _ (he ▸ List.mem_append_right _ List.mem_cons_self)
        · exact h.gone c (he ▸ List.mem_append_right _ (List.mem_cons_of_mem _ hc))

theorem left (h : Apart w) (ticket : Nat) :
    Apart { w with tracker := w.tracker.abandon ticket, gone := ticket :: w.gone } := by
  obtain ⟨-, replies, -, tickets, -⟩ := w.tracker.abandon_kept ticket
  refine h.same (w.tracker.places_abandon ticket) replies tickets fun b hb => ?_
  by_cases own : w.tracker.Serves ticket
  · obtain ⟨b', busy, rfl⟩ := Option.map_eq_some_iff.1 own
    rw [Tracker.abandon_of_busy busy] at hb
    rcases List.mem_append.1 hb with hb | hb
    · exact List.mem_cons_of_mem _ (h.gone b hb)
    · rw [List.mem_singleton.1 hb]
      exact List.mem_cons_self
  · rw [Tracker.abandon_of_not_serves own] at hb
    exact List.mem_cons_of_mem _ (h.gone b hb)

theorem asked (h : Apart w) (r : Request) :
    Apart { w with tracker := (w.tracker.request r).2, asked := w.asked ++ [r] } := by
  have places : (w.tracker.request r).2.places = w.tracker.places ++ [w.tracker.tickets] := by
    simp only [Tracker.places, Tracker.request, List.map_append, List.map_cons, List.map_nil,
      List.append_assoc]
    rfl
  refine ⟨?_, fun reply hr hk => ?_, ⟨fun k hk => ?_, fun reply hr => Nat.lt_succ_of_lt (h.issued.2 reply hr)⟩,
    h.gone⟩
  · show (w.tracker.request r).2.places.Pairwise (· < ·)
    rw [places, List.pairwise_append]
    refine ⟨h.ordered, List.pairwise_singleton _ _, fun k hk n hn => ?_⟩
    rw [List.mem_singleton.1 hn]
    exact h.issued.1 k hk
  · rw [places] at hk
    rcases List.mem_append.1 hk with hk | hk
    · exact h.unanswered reply hr hk
    · exact Nat.ne_of_lt (h.issued.2 reply hr) (List.mem_singleton.1 hk)
  · rw [places] at hk
    rcases List.mem_append.1 hk with hk | hk
    · exact Nat.lt_succ_of_lt (h.issued.1 k hk)
    · rw [List.mem_singleton.1 hk]
      exact Nat.lt_succ_self _

theorem moved (h : Apart w) (m : Moved w e w') : Apart w' := by
  cases m with
  | nothing _ => exact h
  | asked r => exact h.asked r
  | granted hg => exact h.granted hg
  | advanced ha => exact h.advanced ha
  | concluded hc => exact h.concluded hc
  | left ticket => exact h.left ticket
  | passed d | around setting => exact h.same (List.Sublist.refl _) rfl rfl h.gone

/-- Nobody who has a place was answered, and no two have the same. -/
theorem play (source : Operation S Unit σ Record) (pacing : Pacing) (setting : Setting S)
    (events : List (Event S)) : Apart (World.play source pacing setting events) := by
  induction events using List.reverseRecOn with
  | nil => exact .initial pacing setting
  | append_singleton events e ih =>
    rw [World.play_concat]
    exact ih.moved (.of_apply source _ e)

end Apart

/-- The caller with a ticket does not wait any more, and never will. -/
structure Beyond (ticket : Nat) (w : World S σ) : Prop where
  issued : ticket < w.tracker.tickets
  waiting : ∀ p ∈ w.tracker.waiting, ticket < p.1

namespace Beyond

variable {w w' : World S σ} {e : Event S} {ticket : Nat}

theorem moved (h : Beyond ticket w) (m : Moved w e w') : Beyond ticket w' where
  issued := Nat.lt_of_lt_of_le h.issued m.waiting.1
  waiting p hp := by
    rcases m.waiting.2 p hp with old | ⟨new, -⟩
    · exact h.waiting p old
    · rw [new]
      exact h.issued

theorem granted (apart : Apart w) {t : Tracker σ} {setting : Setting S} {request : Request}
    {waiting : List (Nat × Request)} (first : w.tracker.waiting = (ticket, request) :: waiting)
    (hg : Tracker.Granted w.now w.tracker w.setting t setting) :
    Beyond ticket { w with tracker := t, setting := setting } := by
  have mine : ticket ∈ w.tracker.places :=
    Tracker.mem_places_of_waiting (p := (ticket, request)) (first ▸ List.mem_cons_self)
  have behind : ∀ p ∈ waiting, ticket < p.1 := by
    have ordered := (List.pairwise_append.1 apart.ordered).2.1
    rw [first, List.map_cons, List.pairwise_cons] at ordered
    exact fun p hp => ordered.1 p.1 (List.mem_map_of_mem hp)
  obtain ⟨p, front, tickets, -⟩ := hg.first
  rw [first] at front
  cases front
  exact ⟨tickets ▸ apart.issued.1 ticket mine, behind⟩

end Beyond

end CallGuard.Sequence
