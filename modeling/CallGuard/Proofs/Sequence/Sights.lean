/-
What is seen of the fetches of a tracker from outside: when each begins, and when it
ends and with what. What was seen of one of them tells how it stands, and a refetch
that succeeded answered with what its own fetch had ended with.
-/
import CallGuard.Proofs.Sequence.Apart

namespace CallGuard.Sequence

variable {S σ : Type}

/-- What is seen of the fetch for the caller with a ticket. -/
inductive Sight where
  | began (ticket time : Nat)
  | ended (ticket time : Nat) (outcome : Outcome Record)

namespace Sight

/-- Whose fetch was seen. -/
def ticket : Sight → Nat
  | began ticket _ | ended ticket _ _ => ticket

/-- When it was seen. -/
def time : Sight → Nat
  | began _ time | ended _ time _ => time

end Sight

/-- What is seen when a fetch goes on from `b` to `b'`, the latest first. -/
def Refetch.sights (now : Nat) (b b' : Refetch σ) : List Sight :=
  match b.fetch, b'.fetch with
  | .due, .running _ => [.began b.ticket now]
  | .due, .ended outcome => [.ended b.ticket now outcome, .began b.ticket now]
  | .running _, .ended outcome => [.ended b.ticket now outcome]
  | _, _ => []

namespace World

/-- What is seen when an event leads from `w` to `w'`. -/
def sighted (w : World S σ) (w' : World S σ) : Event S → List Sight
  | .fetch => (List.zipWith (Refetch.sights w.now) w.tracker.fetching w'.tracker.fetching).flatten
  | _ => []

/-- What is seen in the course of a run, the latest first. -/
def sights (source : Operation S Unit σ Record) (pacing : Pacing) (setting : Setting S)
    (events : List (Event S)) : List Sight :=
  (events.foldl (fun (w, seen) e => (w.apply source e, w.sighted (w.apply source e) e ++ seen))
    (initial pacing setting, [])).2

theorem sights_concat (source : Operation S Unit σ Record) (pacing : Pacing) (setting : Setting S)
    (events : List (Event S)) (e : Event S) :
    sights source pacing setting (events ++ [e]) =
      (play source pacing setting events).sighted (play source pacing setting (events ++ [e])) e ++
        sights source pacing setting events := by
  have beside (w : World S σ) (seen : List Sight) :
      (events.foldl (fun (w, seen) e => (w.apply source e, w.sighted (w.apply source e) e ++ seen))
        (w, seen)).1 = events.foldl (apply source) w := by
    induction events generalizing w seen with
    | nil => rfl
    | cons e events ih => exact ih _ _
  rw [play_concat]
  unfold sights
  rw [List.foldl_append, List.foldl_cons, List.foldl_nil]
  simp only [beside]
  rfl

end World

/-- What was seen of the fetch for one caller. -/
def about (ticket : Nat) (seen : List Sight) : List Sight := seen.filter (·.ticket == ticket)

theorem about_append_of_ne {ticket : Nat} {new seen : List Sight} (h : ∀ s ∈ new, s.ticket ≠ ticket) :
    about ticket (new ++ seen) = about ticket seen := by
  have none_new : new.filter (·.ticket == ticket) = [] :=
    List.filter_eq_nil_iff.2 fun s hs => by simpa only [beq_iff_eq] using h s hs
  rw [about, List.filter_append, none_new, List.nil_append]
  rfl

theorem about_append_of_eq {ticket : Nat} {new seen : List Sight} (h : ∀ s ∈ new, s.ticket = ticket) :
    about ticket (new ++ seen) = new ++ about ticket seen := by
  have all_new : new.filter (·.ticket == ticket) = new :=
    List.filter_eq_self.2 fun s hs => by simpa only [beq_iff_eq] using h s hs
  rw [about, List.filter_append, all_new]
  rfl

theorem mem_about {ticket : Nat} {seen : List Sight} {s : Sight} :
    s ∈ about ticket seen ↔ s ∈ seen ∧ s.ticket = ticket := by
  rw [about, List.mem_filter, beq_iff_eq]

/-! ## One fetch -/

namespace Refetch

theorem sights_self (now : Nat) (b : Refetch σ) : b.sights now b = [] := by
  unfold sights
  cases b.fetch <;> rfl

theorem of_mem_sights {now : Nat} {b b' : Refetch σ} {s : Sight} (h : s ∈ b.sights now b') :
    s.ticket = b.ticket ∧ s.time = now := by
  unfold sights at h
  split at h
  · rw [List.mem_singleton.1 h]
    exact ⟨rfl, rfl⟩
  · rcases List.mem_cons.1 h with rfl | h
    · exact ⟨rfl, rfl⟩
    · rw [List.mem_singleton.1 h]
      exact ⟨rfl, rfl⟩
  · rw [List.mem_singleton.1 h]
    exact ⟨rfl, rfl⟩
  · cases h

theorem zipWith_sights_self (now : Nat) (l : List (Refetch σ)) :
    (List.zipWith (sights now) l l).flatten = [] := by
  induction l with
  | nil => rfl
  | cons b l ih => rw [List.zipWith_cons_cons, List.flatten_cons, sights_self, ih, List.nil_append]

/-- Only the fetch that goes on is seen. -/
theorem zipWith_sights (now : Nat) (front rest : List (Refetch σ)) (b b' : Refetch σ) :
    (List.zipWith (sights now) (front ++ b :: rest) (front ++ b' :: rest)).flatten = b.sights now b' := by
  rw [List.zipWith_append rfl, List.flatten_append, zipWith_sights_self, List.zipWith_cons_cons,
    List.flatten_cons, zipWith_sights_self, List.append_nil, List.nil_append]

end Refetch

theorem World.sighted_fetch (w : World S σ) {w' : World S σ} {front rest : List (Refetch σ)}
    {b b' : Refetch σ} (old : w.tracker.fetching = front ++ b :: rest)
    (new : w'.tracker.fetching = front ++ b' :: rest) : w.sighted w' .fetch = b.sights w.now b' := by
  simp only [sighted, old, new, Refetch.zipWith_sights]

theorem World.sighted_self {w : World S σ} {e : Event S} (he : e = .grant ∨ e = .fetch ∨ e = .conclude) :
    w.sighted w e = [] := by
  rcases he with rfl | rfl | rfl
  · rfl
  · exact Refetch.zipWith_sights_self _ _
  · rfl

/-- What was seen of a fetch that stands like this, the latest first. -/
inductive Tells (ticket : Nat) : Fetch σ → List Sight → Prop
  | due : Tells ticket .due []
  | running {s time} : Tells ticket (.running s) [.began ticket time]
  | ended {outcome begin time} : begin ≤ time →
      Tells ticket (.ended outcome) [.ended ticket time outcome, .began ticket begin]

theorem Tells.step {now : Nat} {b b' : Refetch σ} {seen : List Sight} (h : Tells b.ticket b.fetch seen)
    (past : ∀ s ∈ seen, s.time ≤ now) (hs : Tracker.Stepped b b') :
    Tells b'.ticket b'.fetch (b.sights now b' ++ seen) := by
  cases hs with
  | waits due =>
    rw [due] at h
    cases h
    simp only [Refetch.sights, due]
    exact .running
  | came due =>
    rw [due] at h
    cases h
    simp only [Refetch.sights, due]
    exact .ended (Nat.le_refl now)
  | goesOn running =>
    rw [running] at h
    cases h
    simp only [Refetch.sights, running]
    exact .running
  | ended running =>
    rw [running] at h
    cases h with
    | @running _ time =>
      simp only [Refetch.sights, running]
      exact .ended (past (.began b.ticket time) List.mem_cons_self)

theorem Tells.value {ticket : Nat} {record : Record} {seen : List Sight}
    (h : Tells (σ := σ) ticket (.ended (.value record)) seen) : ∃ begin time, begin ≤ time ∧
    seen = [.ended ticket time (.value record), .began ticket begin] := by
  generalize hf : Fetch.ended (σ := σ) (.value record) = fetch at h
  cases h with
  | due | running => cases hf
  | @ended outcome begin time order =>
    cases hf
    exact ⟨begin, time, order, rfl⟩

/-! ## Runs -/

/-- What was seen of the fetch for a caller that was answered. -/
structure Explains (r : Reply) (seen : List Sight) : Prop where
  past : ∀ s ∈ seen, s.time ≤ r.time
  /-- The record of a refetch that succeeded is what its fetch ended with. -/
  refreshed : ∀ record, r.answer = .refetched (.ok record) → ∃ begin time, begin ≤ time ∧
    seen = [.ended r.ticket time (.value record), .began r.ticket begin]
  /-- For a refetch that came too soon there is no fetch. -/
  throttled : ∀ elapsed interval, r.answer = .refetched (.error (.throttled elapsed interval)) → seen = []

/-- All that was seen is of callers that were answered or whose fetches may go on, and
tells how these stand. -/
structure Watched (w : World S σ) (seen : List Sight) : Prop where
  past : ∀ s ∈ seen, s.time ≤ w.now
  tells : ∀ b ∈ w.tracker.fetching, Tells b.ticket b.fetch (about b.ticket seen)
  placed : ∀ s ∈ seen, (∃ b ∈ w.tracker.fetching, b.ticket = s.ticket) ∨
    ∃ r ∈ w.tracker.replies, r.ticket = s.ticket
  explains : ∀ r ∈ w.tracker.replies, Explains r (about r.ticket seen)

theorem Explains.unfetched (r : Reply) (h : ∀ record, r.answer ≠ .refetched (.ok record)) : Explains r [] where
  past := nofun
  refreshed record he := absurd he (h record)
  throttled _ _ _ := rfl

namespace Watched

variable {w w' : World S σ} {e : Event S} {seen : List Sight}

theorem initial (pacing : Pacing) (setting : Setting S) :
    Watched (World.initial pacing setting : World S σ) [] where
  past := nofun
  tells := nofun
  placed := nofun
  explains := nofun

theorem later (h : Watched w seen) (now : w.now ≤ w'.now) (fetching : w'.tracker.fetching = w.tracker.fetching)
    (replies : w'.tracker.replies = w.tracker.replies) : Watched w' seen where
  past s hs := Nat.le_trans (h.past s hs) now
  tells := by
    rw [fetching]
    exact h.tells
  placed := by
    rw [fetching, replies]
    exact h.placed
  explains := by
    rw [replies]
    exact h.explains

theorem unseen (h : Watched w seen) (apart : Apart w) {p : Nat × Request} (hp : p ∈ w.tracker.waiting) :
    about p.1 seen = [] := by
  refine List.filter_eq_nil_iff.2 fun s hs own => ?_
  rw [beq_iff_eq] at own
  rcases h.placed s hs with ⟨b, hb, same⟩ | ⟨r, hr, same⟩
  · have := apart.lt_waiting hb hp
    omega
  · refine apart.unanswered r hr ?_
    rw [same, own]
    exact Tracker.mem_places_of_waiting hp

theorem answered (h : Watched w seen) {reply : Reply} (left : List (Refetch σ)) (now : w'.now = w.now)
    (fetching : w.tracker.fetching = w'.tracker.fetching ++ left) (own : ∀ b ∈ left, b.ticket = reply.ticket)
    (replies : w'.tracker.replies = reply :: w.tracker.replies)
    (explains : Explains reply (about reply.ticket seen)) : Watched w' seen where
  past s hs := now ▸ h.past s hs
  tells b hb := h.tells b (fetching ▸ List.mem_append_left _ hb)
  placed s hs := by
    rw [replies]
    rcases h.placed s hs with ⟨b, hb, same⟩ | ⟨r, hr, same⟩
    · rw [fetching] at hb
      rcases List.mem_append.1 hb with hb | hb
      · exact .inl ⟨b, hb, same⟩
      · exact .inr ⟨reply, List.mem_cons_self, own b hb ▸ same⟩
    · exact .inr ⟨r, List.mem_cons_of_mem _ hr, same⟩
  explains r hr := by
    rw [replies] at hr
    rcases List.mem_cons.1 hr with rfl | hr
    · exact explains
    · exact h.explains r hr

theorem granted (h : Watched w seen) (apart : Apart w) {t : Tracker σ} {setting : Setting S}
    (hg : Tracker.Granted w.now w.tracker w.setting t setting) :
    Watched { w with tracker := t, setting := setting } seen := by
  have unseen {ticket request waiting} (first : w.tracker.waiting = (ticket, request) :: waiting) :
      about ticket seen = [] :=
    h.unseen apart (p := (ticket, request)) (first ▸ List.mem_cons_self)
  have unfetched {reply : Reply} (none : about reply.ticket seen = [])
      (answer : ∀ record, reply.answer ≠ .refetched (.ok record)) :
      Explains reply (about reply.ticket seen) := by
    rw [none]
    exact .unfetched reply answer
  cases hg with
  | answered _ first _ other _ _ =>
    exact h.answered [] rfl (List.append_nil _).symm nofun rfl (unfetched (unseen first) fun record => other _)
  | throttled _ first _ =>
    exact h.answered [] rfl (List.append_nil _).symm nofun rfl (unfetched (unseen first) nofun)
  | barred idle first _ =>
    refine h.answered [] rfl ?_ nofun rfl (unfetched (unseen first) nofun)
    rw [List.append_nil, Tracker.fetching_of_idle idle, Tracker.fetching_of_idle rfl]
    rfl
  | @letIn ticket scope waiting own _ idle first _ =>
    have old := Tracker.fetching_of_idle idle
    refine ⟨h.past, fun b hb => ?_, fun s hs => ?_, h.explains⟩
    · rcases List.mem_append.1 hb with hb | hb
      · exact h.tells b (old ▸ hb)
      · rw [List.mem_singleton.1 hb]
        show Tells ticket .due (about ticket seen)
        rw [unseen first]
        exact .due
    · rcases h.placed s hs with ⟨b, hb, same⟩ | replied
      · exact .inl ⟨b, List.mem_append_left _ (old ▸ hb), same⟩
      · exact .inr replied

theorem concluded (h : Watched w seen) {t : Tracker σ} {setting : Setting S}
    (hc : Tracker.Concluded w.now w.tracker t) :
    Watched { w with tracker := t, setting := setting } seen := by
  have past (ticket : Nat) : ∀ s ∈ about ticket seen, s.time ≤ w.now :=
    fun s hs => h.past s (mem_about.1 hs).1
  have own {b : Refetch σ} : ∀ c ∈ [b], c.ticket = b.ticket :=
    fun c hc => congrArg _ (List.mem_singleton.1 hc)
  have left {b} (busy : w.tracker.busy = some b) {t' : Tracker σ} (idle : t'.busy = none)
      (strays : t'.strays = w.tracker.strays) : w.tracker.fetching = t'.fetching ++ [b] := by
    rw [Tracker.fetching_of_busy busy, Tracker.fetching_of_idle idle, strays]
  cases hc with
  | @refreshed b record busy ended =>
    have tells := h.tells b (Tracker.fetching_of_busy busy ▸ List.mem_append_right _ List.mem_cons_self)
    rw [ended] at tells
    refine h.answered [b] rfl (left busy rfl rfl) own rfl ⟨past b.ticket, fun record' he => ?_, nofun⟩
    cases he
    exact tells.value
  | @failed b f busy fair =>
    refine h.answered [b] rfl (left busy rfl rfl) own rfl ⟨past b.ticket, nofun, fun elapsed interval he => ?_⟩
    cases he
    cases fair

theorem advanced (h : Watched w seen) (apart : Apart w) {t : Tracker σ} {setting : Setting S}
    (ha : Tracker.Advanced w.tracker t) :
    Watched { w with tracker := t, setting := setting }
      (w.sighted { w with tracker := t, setting := setting } .fetch ++ seen) := by
  obtain ⟨-, replies, -, -, -⟩ := ha.kept
  obtain ⟨front, b, b', rest, old, new, hs⟩ := ha.fetching
  have sighted := w.sighted_fetch old (new : { w with tracker := t, setting := setting }.tracker.fetching = _)
  have mem : b ∈ w.tracker.fetching := old ▸ List.mem_append_right _ List.mem_cons_self
  have mem' : b' ∈ t.fetching := new ▸ List.mem_append_right _ List.mem_cons_self
  have own (s : Sight) (hsight : s ∈ b.sights w.now b') : s.ticket = b.ticket ∧ s.time = w.now :=
    Refetch.of_mem_sights hsight
  have others (k : Nat) (other : k ≠ b.ticket) : about k (b.sights w.now b' ++ seen) = about k seen :=
    about_append_of_ne fun s hsight same => other (by rw [← same, (own s hsight).1])
  rw [sighted]
  refine ⟨fun s hsight => ?_, fun c hc => ?_, fun s hsight => ?_, fun r hr => ?_⟩
  · rcases List.mem_append.1 hsight with hsight | hsight
    · exact Nat.le_of_eq (own s hsight).2
    · exact h.past s hsight
  · rcases apart.other old (new ▸ hc : c ∈ front ++ b' :: rest) with rfl | ⟨hc, other⟩
    · have tells := (h.tells b mem).step (fun s hsight => h.past s (mem_about.1 hsight).1) hs
      rw [← about_append_of_eq fun s hsight => (own s hsight).1] at tells
      rw [hs.ticket] at tells ⊢
      exact tells
    · rw [others c.ticket other]
      exact h.tells c hc
  · rcases List.mem_append.1 hsight with hsight | hsight
    · exact .inl ⟨b', mem', hs.ticket.trans (own s hsight).1.symm⟩
    · rcases h.placed s hsight with ⟨c, hc, same⟩ | ⟨r, hr, same⟩
      · have place : s.ticket ∈ t.fetching.map (·.ticket) := by
          have kept : t.fetching.map (·.ticket) = w.tracker.fetching.map (·.ticket) := by
            rw [old, new, List.map_append, List.map_append, List.map_cons, List.map_cons, hs.ticket]
          rw [kept, ← same]
          exact List.mem_map_of_mem hc
        exact .inl (List.mem_map.1 place)
      · exact .inr ⟨r, replies ▸ hr, same⟩
  · rw [show r ∈ t.replies ↔ r ∈ w.tracker.replies by rw [replies]] at hr
    rw [others r.ticket fun same => apart.unanswered r hr (same ▸ Tracker.mem_places_of_fetching mem)]
    exact h.explains r hr

theorem moved (h : Watched w seen) (apart : Apart w) (m : Moved w e w') :
    Watched w' (w.sighted w' e ++ seen) := by
  cases m with
  | nothing he =>
    rw [World.sighted_self he]
    exact h
  | asked r => exact h.later (Nat.le_refl _) rfl rfl
  | granted hg => exact h.granted apart hg
  | advanced ha => exact h.advanced apart ha
  | concluded hc => exact h.concluded hc
  | left ticket =>
    exact h.later (Nat.le_refl _) (w.tracker.fetching_abandon ticket) (w.tracker.abandon_kept ticket).2.1
  | passed d => exact h.later (Nat.le_add_right _ _) rfl rfl
  | around setting => exact h.later (Nat.le_refl _) rfl rfl

/-- What is seen of fetches tells of them after every run. -/
theorem play (source : Operation S Unit σ Record) (pacing : Pacing) (setting : Setting S)
    (events : List (Event S)) :
    Watched (World.play source pacing setting events) (World.sights source pacing setting events) := by
  induction events using List.reverseRecOn with
  | nil => exact .initial pacing setting
  | append_singleton events e ih =>
    rw [World.sights_concat, World.play_concat]
    exact ih.moved (.play source pacing setting events) (.of_apply source _ e)

end Watched

end CallGuard.Sequence
