/-
Whether two fetches of one tracker go on at the same time. The tracker starts no fetch while it
is busy, and what it gives up goes on no more; but a caller that goes away in the middle of its
fetch frees the tracker and leaves the fetch behind. Two fetches at once always include one that
was left behind so and has not ended since.
-/
import CallGuard.Behaviour
import CallGuard.Proofs.Sequence.Sights

namespace CallGuard.Sequence

variable {S σ : Type}

/-- The fetch has not ended: it runs, or is about to. -/
def Refetch.live (b : Refetch σ) : Bool :=
  match b.fetch with
  | .due | .running _ => true
  | .ended _ => false

/-- The fetches that have neither ended nor been given up. -/
def Tracker.live (t : Tracker σ) : List (Refetch σ) := t.fetching.filter (·.live)

/-- Whether a fetch was seen to end. -/
def Sight.isEnd : Sight → Bool
  | .began _ _ => false
  | .ended _ _ _ => true

/-- No end of the fetch for the caller with a ticket was seen. -/
def goesOn (seen : List Sight) (ticket : Nat) : Bool := (about ticket seen).all (!·.isEnd)

namespace World

/-- The ticket of the caller that goes away with an event and leaves the tracker with it. -/
def deserted (w : World S σ) : Event S → List Nat
  | .abandon ticket => (w.tracker.busy.toList.map (·.ticket)).filter (· == ticket)
  | _ => []

/-- The tickets of all that went away while they had the tracker, in that order. -/
def deserters (source : Operation S Unit σ Record) : World S σ → List (Event S) → List Nat
  | _, [] => []
  | w, e :: events => w.deserted e ++ deserters source (w.apply source e) events

theorem deserters_append (source : Operation S Unit σ Record) (w : World S σ)
    (events events' : List (Event S)) : w.deserters source (events ++ events') =
      w.deserters source events ++ (events.foldl (apply source) w).deserters source events' := by
  induction events generalizing w with
  | nil => rfl
  | cons e events ih => simp only [List.cons_append, deserters, ih, List.append_assoc, List.foldl_cons]

theorem mem_deserted {w : World S σ} {e : Event S} {ticket : Nat} :
    ticket ∈ w.deserted e ↔ e = .abandon ticket ∧ w.tracker.Serves ticket := by
  unfold deserted Tracker.Serves
  cases e with
  | abandon k =>
    simp only [List.mem_filter, ← Option.toList_map, Option.mem_toList, beq_iff_eq,
      Event.abandon.injEq]
    constructor
    · rintro ⟨serves, rfl⟩
      exact ⟨rfl, serves⟩
    · rintro ⟨rfl, serves⟩
      exact ⟨serves, rfl⟩
  | request _ | grant | fetch | conclude | pass _ | around _ => simp

theorem mem_deserters {source : Operation S Unit σ Record} {w : World S σ} {events : List (Event S)}
    {ticket : Nat} : ticket ∈ w.deserters source events ↔ ∃ before after,
      events = before ++ .abandon ticket :: after ∧
        (before.foldl (apply source) w).tracker.Serves ticket := by
  induction events generalizing w with
  | nil => simp [deserters]
  | cons e events ih =>
    rw [deserters, List.mem_append, mem_deserted, ih]
    constructor
    · rintro (⟨rfl, serves⟩ | ⟨before, after, rfl, serves⟩)
      · exact ⟨[], events, rfl, serves⟩
      · exact ⟨e :: before, after, rfl, serves⟩
    · rintro ⟨before, after, split, serves⟩
      cases before with
      | nil =>
        cases split
        exact .inl ⟨rfl, serves⟩
      | cons e' before =>
        cases split
        exact .inr ⟨before, after, rfl, serves⟩

end World

/-! ## Who left the fetches behind -/

theorem Moved.strays {w w' : World S σ} {e : Event S} (m : Moved w e w') :
    w'.tracker.strays.map (·.ticket) = w.tracker.strays.map (·.ticket) ++ w.deserted e := by
  cases m with
  | nothing he => rcases he with rfl | rfl | rfl <;> exact (List.append_nil _).symm
  | asked _ | passed _ | around _ => exact (List.append_nil _).symm
  | granted hg => cases hg <;> exact (List.append_nil _).symm
  | concluded hc => cases hc <;> exact (List.append_nil _).symm
  | advanced ha =>
    cases ha with
    | ran _ _ => exact (List.append_nil _).symm
    | strayed he hs => simp [he, hs.ticket, World.deserted]
  | left ticket =>
    by_cases own : w.tracker.Serves ticket
    · obtain ⟨b, busy, rfl⟩ := Option.map_eq_some_iff.1 own
      simp [Tracker.abandon_of_busy busy, busy, World.deserted]
    · have others : w.deserted (.abandon ticket) = [] :=
        List.eq_nil_iff_forall_not_mem.2 fun k hk => by
          obtain ⟨same, serves⟩ := World.mem_deserted.1 hk
          cases same
          exact own serves
      rw [others, List.append_nil, Tracker.abandon_of_not_serves own]

section Play

variable (source : Operation S Unit σ Record) (pacing : Pacing) (setting : Setting S)
  (events : List (Event S))

/-- The fetches left behind are those of the callers that went away from the tracker. -/
theorem strays_play : (World.play source pacing setting events).tracker.strays.map (·.ticket) =
    (World.initial pacing setting).deserters source events := by
  induction events using List.reverseRecOn with
  | nil => rfl
  | append_singleton events e ih =>
    rw [World.play_concat, (Moved.of_apply source _ e).strays, ih, World.deserters_append]
    simp only [World.deserters, List.append_nil, World.play]

end Play

/-! ## Which fetches are live -/

theorem Tells.goesOn_eq {b : Refetch σ} {seen : List Sight}
    (h : Tells b.ticket b.fetch (about b.ticket seen)) : goesOn seen b.ticket = b.live := by
  unfold goesOn Refetch.live
  generalize b.fetch = fetch at h
  generalize about b.ticket seen = own at h
  cases h <;> rfl

theorem Watched.live {w : World S σ} {seen : List Sight} (h : Watched w seen) {l : List (Refetch σ)}
    (hl : ∀ b ∈ l, b ∈ w.tracker.fetching) :
    (l.filter (·.live)).map (·.ticket) = (l.map (·.ticket)).filter (goesOn seen) := by
  rw [List.filter_map]
  refine congrArg _ (List.filter_congr fun b hb => ?_)
  exact (h.tells b (hl b hb)).goesOn_eq.symm

theorem due_of_began {w w' : World S σ} (m : Moved w .fetch w') {ticket time : Nat}
    (began : .began ticket time ∈ w.sighted w' .fetch) :
    ∃ b ∈ w.tracker.fetching, b.ticket = ticket ∧ b.fetch = .due := by
  cases m with
  | nothing he =>
    rw [World.sighted_self he] at began
    cases began
  | advanced ha =>
    obtain ⟨front, b, b', rest, old, new, hs⟩ := ha.fetching
    rw [w.sighted_fetch old new] at began
    refine ⟨b, old ▸ List.mem_append_right _ List.mem_cons_self, ?_⟩
    cases hs with
    | waits due | came due =>
      simp only [Refetch.sights, due, List.mem_cons, List.not_mem_nil, or_false, Sight.began.injEq,
        reduceCtorEq, false_or] at began
      exact ⟨began.1.symm, due⟩
    | goesOn running | ended running => simp [Refetch.sights, running] at began

theorem Apart.stray_of_lt {w : World S σ} (h : Apart w) {b c : Refetch σ} (hb : b ∈ w.tracker.fetching)
    (hc : c ∈ w.tracker.fetching) (lt : b.ticket < c.ticket) : b ∈ w.tracker.strays := by
  rcases List.mem_append.1 hb with hb | hb
  · exact hb
  · exfalso
    have busy : w.tracker.busy = some b := Option.mem_toList.1 hb
    have ordered := (List.pairwise_append.1 h.ordered).1
    rw [Tracker.fetching_of_busy busy, List.map_append, List.pairwise_append] at ordered
    rw [Tracker.fetching_of_busy busy] at hc
    rcases List.mem_append.1 hc with hc | hc
    · have := ordered.2.2 c.ticket (List.mem_map_of_mem hc) b.ticket List.mem_cons_self
      omega
    · rw [List.mem_singleton.1 hc] at lt
      omega

/-- After some events: the fetches that are live, by what was seen and by who went away. -/
structure OneAtATime (source : Operation S Unit σ Record) (pacing : Pacing) (setting : Setting S)
    (events : List (Event S)) (w : World S σ) (seen : List Sight) (deserters : List Nat) : Prop where
  /-- Those who went away from the tracker are those who had it when they went away. -/
  away : ∀ k, k ∈ deserters ↔ ∃ before after, events = before ++ .abandon k :: after ∧
    (World.play source pacing setting before).tracker.Serves k
  /-- Live is the fetch of whoever has the tracker, until it ends, and beside it all fetches of
  callers that went away from the tracker, until they end. -/
  live : w.tracker.live.map (·.ticket) = deserters.filter (goesOn seen) ++
    (w.tracker.busy.toList.map (·.ticket)).filter (goesOn seen)
  /-- As long as the fetches of all such callers have ended there is at most one. -/
  single : (∀ k ∈ deserters, goesOn seen k = false) → w.tracker.live.length ≤ 1
  /-- When a fetch begins, all live ones of earlier callers are of such callers. -/
  begins : ∀ before after, events = before ++ .fetch :: after →
    ∀ v v', v = World.play source pacing setting before → v' = v.apply source .fetch →
      ∀ k time, .began k time ∈ v.sighted v' .fetch → ∀ b ∈ v.tracker.live, b.ticket < k →
        b.ticket ∈ (World.initial pacing setting).deserters source before
  /-- What was seen of a fetch is of one that is live, or has ended, or was given up when its
  caller was answered. -/
  placed : ∀ s ∈ seen, s.ticket ∈ w.tracker.live.map (·.ticket) ∨ goesOn seen s.ticket = false ∨
    ∃ r ∈ w.tracker.replies, r.ticket = s.ticket
  /-- Once its caller was answered a fetch is not live, and nothing more is seen of it. -/
  answered : ∀ r ∈ w.tracker.replies, r.ticket ∉ w.tracker.live.map (·.ticket) ∧
    ∀ s ∈ seen, s.ticket = r.ticket → s.time ≤ r.time

/-- **At most one fetch at a time, unless a caller goes away from its own.** -/
theorem play_one_at_a_time (source : Operation S Unit σ Record) (pacing : Pacing) (setting : Setting S)
    (events : List (Event S)) : OneAtATime source pacing setting events
      (World.play source pacing setting events) (World.sights source pacing setting events)
      ((World.initial pacing setting).deserters source events) := by
  have apart := Apart.play source pacing setting events
  have watched := Watched.play source pacing setting events
  have strays := strays_play source pacing setting events
  generalize World.play source pacing setting events = w at apart watched strays
  generalize World.sights source pacing setting events = seen at watched
  have live : w.tracker.live.map (·.ticket) =
      ((World.initial pacing setting).deserters source events).filter (goesOn seen) ++
        (w.tracker.busy.toList.map (·.ticket)).filter (goesOn seen) := by
    rw [Tracker.live, watched.live fun b hb => hb, ← strays, Tracker.fetching, List.map_append,
      List.filter_append]
  refine ⟨fun k => World.mem_deserters, live, fun ended => ?_, ?_, fun s hs => ?_,
    fun r hr => ⟨fun mine => ?_, fun s hs own => ?_⟩⟩
  · have none_left : ((World.initial pacing setting).deserters source events).filter (goesOn seen) = [] :=
      List.filter_eq_nil_iff.2 fun k hk => by simp [ended k hk]
    have count := congrArg List.length live
    rw [none_left, List.nil_append, List.length_map] at count
    rw [count]
    refine Nat.le_trans (List.length_filter_le _ _) ?_
    cases w.tracker.busy <;> simp
  · rintro before after rfl v v' rfl rfl k time began b hb lt
    obtain ⟨c, hc, rfl, -⟩ := due_of_began (.of_apply source _ .fetch) began
    rw [← strays_play]
    have stray := (Apart.play source pacing setting before).stray_of_lt (List.mem_filter.1 hb).1 hc lt
    exact List.mem_map_of_mem stray
  · rcases watched.placed s hs with ⟨b, hb, own⟩ | answered
    · rw [← own, (watched.tells b hb).goesOn_eq]
      cases hl : b.live with
      | true => exact .inl (List.mem_map_of_mem (List.mem_filter.2 ⟨hb, hl⟩))
      | false => exact .inr (.inl rfl)
    · exact .inr (.inr answered)
  · obtain ⟨b, hb, own⟩ := List.mem_map.1 mine
    refine apart.unanswered r hr ?_
    rw [← own]
    exact Tracker.mem_places_of_fetching (List.mem_filter.1 hb).1
  · exact (watched.explains r hr).past s (mem_about.2 ⟨hs, own⟩)

/-- A caller goes away while its fetch runs, and the next one gets another at once: two have begun
by then, and neither has ended. -/
theorem two_at_once :
    let source : Operation Unit Unit (Scope × Activity Record) Record :=
      .scripted (fun _ n => .sleep (if n = 1 then 100000000 else 30000000) (.finish (.value ⟨n + 4, 1⟩)))
        (fun _ _ s => s) (fun _ s => s)
    let refetch : Event Unit := .request (.refetch ⟨⟨0, []⟩, none⟩)
    let events := [refetch, .grant, .fetch, .abandon 0, refetch, .grant, .fetch]
    let w := World.play source ⟨0, 1000000000, by decide⟩ ⟨⟨1, []⟩, [], ()⟩ events
    w.tracker.live.map (·.ticket) = [0, 1] ∧ w.tracker.replies.length = 0 ∧
      World.sights source ⟨0, 1000000000, by decide⟩ ⟨⟨1, []⟩, [], ()⟩ events =
        [.began 1 0, .began 0 0] :=
  ⟨rfl, rfl, rfl⟩

end CallGuard.Sequence
