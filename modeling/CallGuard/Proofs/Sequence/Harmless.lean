/-
What a refetch does to the tracker: nothing, unless it succeeds. However it ends, it
gives the tracker back as it found it, to whoever is next; and a fetch whose refetch
is over never changes anything.
-/
import CallGuard.Proofs.Sequence.Sights

namespace CallGuard.Sequence

variable {S σ : Type}

/-- The caller with a ticket was served, and as long as it has the tracker, that is as
it was found in `found`. -/
structure Held (ticket : Nat) (found w : World S σ) : Prop where
  beyond : Beyond ticket w
  kept : w.tracker.Serves ticket →
    w.tracker.stock = found.tracker.stock ∧ w.tracker.replies = found.tracker.replies

/-- How the caller with a ticket, who found the tracker as it is in `found`, gives it
back in an event that leads from `w` to `w'`. -/
inductive Returned (ticket : Nat) (found : World S σ) (seen : List Sight) (w : World S σ) :
    Event S → World S σ → Prop
  /-- With success: the record is the one that its own fetch ended with. -/
  | refreshed {w' record begin time} :
      w'.tracker.stock = ⟨record, some w.now, found.tracker.untouched⟩ →
      w'.tracker.replies = ⟨ticket, w.now, .refetched (.ok record)⟩ :: found.tracker.replies →
      w'.tracker.waiting = w.tracker.waiting →
      about ticket seen = [.ended ticket time (.value record), .began ticket begin] → begin ≤ time →
      Returned ticket found seen w .conclude w'
  /-- With a failure: as it was found. -/
  | failed {w' f} : w'.tracker.stock = found.tracker.stock →
      w'.tracker.replies = ⟨ticket, w.now, .refetched (.error f)⟩ :: found.tracker.replies →
      w'.tracker.waiting = w.tracker.waiting → Returned ticket found seen w .conclude w'
  /-- By going away: as it was found. -/
  | left {w'} : w'.tracker.stock = found.tracker.stock → w'.tracker.replies = found.tracker.replies →
      w'.tracker.waiting = w.tracker.waiting → Returned ticket found seen w (.abandon ticket) w'

/-- What becomes of what the tracker keeps in an event. -/
inductive Changed (w : World S σ) : Event S → World S σ → Prop
  | same {e w'} : w'.tracker.stock = w.tracker.stock → Changed w e w'
  /-- A request to hand out the next number, or to overwrite it, is served. -/
  | served {ticket request waiting w'} : w.tracker.busy = none →
      w.tracker.waiting = (ticket, request) :: waiting →
      request = .next ∨ (∃ n, request = .overwrite n) →
      w'.tracker.refetchedAt = w.tracker.refetchedAt → Changed w .grant w'
  /-- The refetch under way takes in what its own fetch ended with, and is answered
  with that. -/
  | refetched {b record w'} : w.tracker.busy = some b → b.fetch = .ended (.value record) →
      w'.tracker.stock = ⟨record, some w.now, w.tracker.untouched⟩ →
      w'.tracker.replies = ⟨b.ticket, w.now, .refetched (.ok record)⟩ :: w.tracker.replies →
      Changed w .conclude w'

variable {w w' found : World S σ} {e : Event S} {ticket : Nat}

theorem Moved.changed (m : Moved w e w') : Changed w e w' := by
  cases m with
  | nothing _ | asked r | passed d | around setting => exact .same rfl
  | left ticket => exact .same (w.tracker.abandon_kept ticket).1
  | advanced ha => exact .same ha.kept.1
  | concluded hc =>
    cases hc with
    | refreshed busy ended => exact .refetched busy ended rfl rfl
    | failed _ _ => exact .same rfl
  | granted hg =>
    cases hg with
    | throttled _ _ _ | barred _ _ _ | letIn _ _ _ => exact .same rfl
    | answered idle first _ _ _ record =>
      rcases record with ⟨rfl, rfl⟩ | sets
      · exact .same rfl
      · exact .served idle first sets rfl

theorem Tracker.not_serves_of_idle {t : Tracker σ} (idle : t.busy = none) : ¬ t.Serves ticket := by
  rw [Serves, idle, Option.map_none]
  exact (Option.some_ne_none ticket).symm

namespace Held

theorem moved (h : Held ticket found w) (m : Moved w e w') : Held ticket found w' := by
  refine ⟨h.beyond.moved m, fun serves => ?_⟩
  cases m with
  | nothing _ | asked r | passed d | around setting => exact h.kept serves
  | granted hg =>
    cases hg with
    | answered idle _ _ _ _ _ | throttled idle _ _ => exact absurd serves (Tracker.not_serves_of_idle idle)
    | barred _ _ _ => exact absurd serves (Tracker.not_serves_of_idle rfl)
    | @letIn ticket' scope _ _ _ _ first _ =>
      have later := h.beyond.waiting (ticket', .refetch scope) (first ▸ List.mem_cons_self)
      cases serves
      exact absurd later (Nat.lt_irrefl _)
  | concluded hc =>
    cases hc with
    | refreshed _ _ | failed _ _ => exact absurd serves (Tracker.not_serves_of_idle rfl)
  | advanced ha =>
    obtain ⟨stock, replies, -, -, same⟩ := ha.kept
    rw [stock, replies]
    exact h.kept (same.symm.trans serves)
  | left k =>
    obtain ⟨stock, replies, -, -, -⟩ := w.tracker.abandon_kept k
    rw [stock, replies]
    refine h.kept ?_
    by_cases own : w.tracker.Serves k
    · obtain ⟨b, busy, rfl⟩ := Option.map_eq_some_iff.1 own
      rw [Tracker.abandon_of_busy busy] at serves
      exact absurd serves (Tracker.not_serves_of_idle rfl)
    · rw [Tracker.abandon_of_not_serves own] at serves
      exact serves

/-- Whoever gives the tracker back leaves it as it was found, or with what its own
fetch ended with. -/
theorem returned (h : Held ticket found w) {seen : List Sight} (apart : Apart w) (watched : Watched w seen)
    (m : Moved w e w') (serves : w.tracker.Serves ticket) (free : ¬ w'.tracker.Serves ticket) :
    Returned ticket found seen w e w' ∧ w'.tracker.busy = none := by
  obtain ⟨stock, replies⟩ := h.kept serves
  obtain ⟨b, busy, rfl⟩ := Option.map_eq_some_iff.1 serves
  have mine : b ∈ w.tracker.fetching := by
    rw [Tracker.fetching_of_busy busy]
    exact List.mem_append_right _ List.mem_cons_self
  cases m with
  | nothing _ | asked r | passed d | around setting => exact absurd serves free
  | granted hg =>
    cases hg with
    | answered idle _ _ _ _ _ | throttled idle _ _ | barred idle _ _ | letIn idle _ _ =>
      rw [idle] at busy
      cases busy
  | advanced ha => exact absurd (ha.kept.2.2.2.2.trans serves) free
  | concluded hc =>
    cases hc with
    | @refreshed b' record busy' ended =>
      rw [busy] at busy'
      cases busy'
      have tells := watched.tells b mine
      rw [ended] at tells
      obtain ⟨begin, time, order, seen⟩ := tells.value
      refine ⟨.refreshed ?_ (congrArg _ replies) rfl seen order, rfl⟩
      exact congrArg (Stock.mk record (some w.now)) (congrArg Stock.untouched stock)
    | failed busy' _ =>
      rw [busy] at busy'
      cases busy'
      exact ⟨.failed stock (congrArg _ replies) rfl, rfl⟩
  | left k =>
    by_cases own : w.tracker.Serves k
    · rw [Tracker.Serves, busy] at own
      cases own
      obtain ⟨stock', replies', -, -, waiting⟩ := w.tracker.abandon_kept b.ticket
      refine ⟨.left (stock'.trans stock) (replies'.trans replies) ?_, ?_⟩
      · -- Whoever has the tracker does not wait for it.
        refine waiting.trans (List.filter_eq_self.2 fun p hp => ?_)
        exact bne_iff_ne.2 (Nat.ne_of_gt (apart.lt_waiting mine hp))
      · show (w.tracker.abandon b.ticket).busy = none
        rw [Tracker.abandon_of_busy busy]
    · refine absurd ?_ free
      show (w.tracker.abandon k).Serves b.ticket
      rw [Tracker.abandon_of_not_serves own]
      exact serves

theorem granted (apart : Apart w) {t : Tracker σ} {setting : Setting S} {scope : Scope}
    {waiting : List (Nat × Request)} (first : w.tracker.waiting = (ticket, .refetch scope) :: waiting)
    (hg : Tracker.Granted w.now w.tracker w.setting t setting) :
    Held ticket w { w with tracker := t, setting := setting } := by
  refine ⟨Beyond.granted apart first hg, fun serves => ?_⟩
  cases hg with
  | answered idle _ _ _ _ _ | throttled idle _ _ => exact absurd serves (Tracker.not_serves_of_idle idle)
  | barred _ _ _ => exact absurd serves (Tracker.not_serves_of_idle rfl)
  | letIn _ _ _ => exact ⟨rfl, rfl⟩

end Held

/-- Whoever is served finds the tracker as it is, and has it from then on for as long as
it has it at all. -/
theorem held_play (source : Operation S Unit σ Record) (pacing : Pacing) (setting : Setting S)
    {before : List (Event S)} {found : World S σ} (hu : found = World.play source pacing setting before)
    (idle : found.tracker.busy = none) {scope : Scope} {waiting : List (Nat × Request)}
    (first : found.tracker.waiting = (ticket, .refetch scope) :: waiting) (mid : List (Event S)) :
    Held ticket found (World.play source pacing setting (before ++ .grant :: mid)) := by
  rw [List.append_cons]
  refine World.play_since ?_ (fun mid e ih => ih.moved (.of_apply _ _ e)) mid
  rw [World.play_concat, ← hu]
  obtain ⟨t, setting', granted, he⟩ := World.apply_grant source idle first
  rw [he]
  exact .granted (hu ▸ .play source pacing setting before) first granted

theorem Tracker.Granted.refetch {t : Tracker σ} {setting : Setting S} {scope : Scope}
    {waiting : List (Nat × Request)} (first : w.tracker.waiting = (ticket, .refetch scope) :: waiting)
    (hg : Granted w.now w.tracker w.setting t setting) :
    t.stock = w.tracker.stock ∧ t.waiting = waiting ∧
      (t.Serves ticket ∧ t.replies = w.tracker.replies ∨
        t.busy = none ∧ ∃ f, t.replies = ⟨ticket, w.now, .refetched (.error f)⟩ :: w.tracker.replies) := by
  cases hg with
  | answered _ first' other _ _ _ =>
    rw [first] at first'
    cases first'
    exact absurd rfl (other scope)
  | throttled idle first' _ =>
    rw [first] at first'
    cases first'
    exact ⟨rfl, rfl, .inr ⟨idle, _, rfl⟩⟩
  | barred _ first' _ =>
    rw [first] at first'
    cases first'
    exact ⟨rfl, rfl, .inr ⟨rfl, _, rfl⟩⟩
  | letIn _ first' _ =>
    rw [first] at first'
    cases first'
    exact ⟨rfl, rfl, .inl ⟨rfl, rfl⟩⟩

/-- The law of refetches, as to what they change. -/
structure Harmless (source : Operation S Unit σ Record) (pacing : Pacing) (setting : Setting S)
    (events : List (Event S)) (w : World S σ) (seen : List Sight) : Prop where
  /-- Whoever is first gets the tracker as soon as nobody has it. A refetch keeps it for
  its fetch or fails at once; in either case nothing is changed. -/
  served : w.tracker.busy = none → ∀ ticket scope waiting,
    w.tracker.waiting = (ticket, .refetch scope) :: waiting → ∀ w', w' = w.apply source .grant →
      w'.tracker.stock = w.tracker.stock ∧ w'.tracker.waiting = waiting ∧
        (w'.tracker.Serves ticket ∧ w'.tracker.replies = w.tracker.replies ∨
          w'.tracker.busy = none ∧
            ∃ f, w'.tracker.replies = ⟨ticket, w.now, .refetched (.error f)⟩ :: w.tracker.replies)
  /-- As long as it keeps the tracker, that stays as it was found, and nobody else is
  served; and whatever event takes the tracker from it, leaves it as it was found unless
  the refetch succeeds. Then the record is what its own fetch ended with, of which
  nothing was seen before. -/
  keeps : ∀ before mid found, events = before ++ .grant :: mid →
    found = World.play source pacing setting before → found.tracker.busy = none →
      ∀ ticket scope waiting, found.tracker.waiting = (ticket, .refetch scope) :: waiting →
        w.tracker.Serves ticket →
          w.tracker.stock = found.tracker.stock ∧ w.tracker.replies = found.tracker.replies ∧
            about ticket (World.sights source pacing setting before) = [] ∧
            ∀ e, ¬ (w.apply source e).tracker.Serves ticket →
              Returned ticket found seen w e (w.apply source e) ∧ (w.apply source e).tracker.busy = none
  /-- When nobody has the tracker, whoever is first is served, whatever it asks for. -/
  passes : w.tracker.busy = none → ∀ p waiting, w.tracker.waiting = p :: waiting →
    (w.apply source .grant).tracker.waiting = waiting ∧
      ((w.apply source .grant).tracker.Serves p.1 ∨
        ∃ answer, (w.apply source .grant).tracker.replies = ⟨p.1, w.now, answer⟩ :: w.tracker.replies)
  /-- Whoever goes away without having the tracker only leaves the line. -/
  waits : ∀ ticket, ¬ w.tracker.Serves ticket → (w.apply source (.abandon ticket)).tracker =
    { w.tracker with waiting := w.tracker.waiting.filter (·.1 != ticket) }
  /-- No fetch changes anything by itself, whether its caller has the tracker or not. -/
  fetches : (w.apply source .fetch).tracker.stock = w.tracker.stock ∧
    (w.apply source .fetch).tracker.replies = w.tracker.replies
  /-- What the tracker keeps changes only when a number is handed out or overwritten, and
  when the refetch under way succeeds. -/
  changes : ∀ e, Changed w e (w.apply source e)

/-- **A refetch that fails changes nothing.** Whatever ends a refetch, the tracker is as
it was found, unless the refetch was answered with the record that its own fetch ended
with. -/
theorem play_harmless (source : Operation S Unit σ Record) (pacing : Pacing) (setting : Setting S)
    (events : List (Event S)) :
    Harmless source pacing setting events (World.play source pacing setting events)
      (World.sights source pacing setting events) := by
  refine ⟨?_, ?_, ?_, fun ticket free => ?_, ?_, fun e => (Moved.of_apply source _ e).changed⟩
  · rintro idle ticket scope waiting first w' rfl
    obtain ⟨t, setting', granted, he⟩ := World.apply_grant source idle first
    rw [he]
    exact granted.refetch first
  · intro before mid found he hu idle ticket scope waiting first serves
    have held := held_play source pacing setting hu idle first mid
    have seen := (Watched.play source pacing setting before).unseen (.play source pacing setting before)
      (p := (ticket, .refetch scope)) (by rw [← hu, first]; exact List.mem_cons_self)
    subst he
    obtain ⟨stock, replies⟩ := held.kept serves
    refine ⟨stock, replies, seen, fun e free => ?_⟩
    exact held.returned (.play source pacing setting _) (.play source pacing setting _) (.of_apply source _ e)
      serves free
  · intro idle p waiting first
    obtain ⟨t, setting', granted, he⟩ := World.apply_grant source idle first
    rw [he]
    obtain ⟨p', first', -, served⟩ := granted.first
    rw [first] at first'
    cases first'
    exact ⟨rfl, served⟩
  · exact Tracker.abandon_of_not_serves free
  · have m := Moved.of_apply source (World.play source pacing setting events) .fetch
    generalize (World.play source pacing setting events).apply source .fetch = w' at m
    cases m with
    | nothing _ => exact ⟨rfl, rfl⟩
    | advanced ha =>
      obtain ⟨stock, replies, -⟩ := ha.kept
      exact ⟨stock, replies⟩

/-- A refetch that was served after three events gives the tracker back with the record of its
fetch, one that is refused leaves it as it was, and a later one sets it again. -/
theorem renewed_harmless :
    let w n := World.play tens .eachSecond ⟨⟨1, []⟩, [], ()⟩ (renewed.take n)
    let seen n := World.sights tens .eachSecond ⟨⟨1, []⟩, [], ()⟩ (renewed.take n)
    Returned 1 (w 3) (seen 9) (w 9) .conclude (w 10) ∧
      (w 9).tracker.stock = ⟨⟨0, 0⟩, none, false⟩ ∧
      (w 10).tracker.stock = ⟨⟨10, 7⟩, some 30000000, false⟩ ∧
      (w 14).tracker.stock = (w 13).tracker.stock ∧
      (w 23).tracker.stock = ⟨⟨20, 7⟩, some 1061000000, false⟩ := by
  have harmless := play_harmless tens .eachSecond ⟨⟨1, []⟩, [], ()⟩ (renewed.take 9)
  obtain ⟨-, -, -, returned⟩ :=
    harmless.keeps (renewed.take 3) ((renewed.take 9).drop 4) _ rfl rfl rfl 1 _ _ rfl rfl
  exact ⟨(returned .conclude (Tracker.not_serves_of_idle rfl)).1, rfl, rfl, rfl, rfl⟩

end CallGuard.Sequence
