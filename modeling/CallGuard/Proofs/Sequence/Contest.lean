/-
A fetch against its scope. Once a refetch is let in, the fetch and the end of its scope
compete (`Contest`), and no time passes once one of them has come. The refetch returns what
its fetch has ended with only if the scope has not ended by then, and else how the scope has
ended (`Settled`). After that nothing is seen of its fetch any more (`Answered`).
-/
import CallGuard.Proofs.Sequence.Bounds
import CallGuard.Proofs.Sequence.Sights

namespace CallGuard.Sequence

variable {S σ : Type}

/-- What a refetch returns when its fetch has ended in time. -/
def answerOf : Outcome Record → Except Failure Record
  | .value record => .ok record
  | .failure f => .error (.fetchFailed f)
  | .panic message => .error (.fetchFailed (.plain (Tracker.panicText message)))

namespace World

variable {source : Operation S Unit σ Record} {w : World S σ} {b : Refetch σ}

/-! ## The grid -/

/-- If time passes, the clock stops at a whole millisecond. -/
def KeepsGrid (w : World S σ) : Event S → Prop
  | .pass d => (w.now + d) % 1000000 = 0
  | .request _ | .grant | .fetch | .conclude | .abandon _ | .around _ => True

instance (w : World S σ) (e : Event S) : Decidable (w.KeepsGrid e) :=
  match e with
  | .pass d => inferInstanceAs (Decidable ((w.now + d) % 1000000 = 0))
  | .request _ | .grant | .fetch | .conclude | .abandon _ | .around _ => inferInstanceAs (Decidable True)

/-- The clock stops at whole milliseconds only. -/
def OnGrid (source : Operation S Unit σ Record) : World S σ → List (Event S) → Prop
  | _, [] => True
  | w, e :: events => w.KeepsGrid e ∧ OnGrid source (w.apply source e) events

theorem onGrid_append {events events' : List (Event S)} : w.OnGrid source (events ++ events') ↔
    w.OnGrid source events ∧ (events.foldl (apply source) w).OnGrid source events' := by
  induction events generalizing w with
  | nil => exact ⟨fun h => ⟨trivial, h⟩, fun h => h.2⟩
  | cons e events ih =>
    rw [List.cons_append, OnGrid, OnGrid, ih, and_assoc]
    rfl

/-! ## Single steps -/

/-- A refetch whose scope has ended by the time it is let in is answered at once. -/
theorem grant_barred {ticket : Nat} {scope : Scope} {rest : List (Nat × Request)} {reason : ScopeEnd}
    (idle : w.tracker.busy = none) (first : w.tracker.waiting = (ticket, .refetch scope) :: rest)
    (paced : w.tracker.tooSoon? w.now = none)
    (ended : (scope.withTimeout w.tracker.pacing.timeout w.now w.setting.signals).1.ended?
      w.setting.signals w.now = some reason) :
    (w.apply source .grant).tracker.replies =
      ⟨ticket, w.now, .refetched (.error (.fetchEnded reason))⟩ :: w.tracker.replies := by
  have still : { w.tracker with waiting := rest, busy := none }.tooSoon? w.now = none := paced
  have lapsed : (scope.withTimeout w.tracker.pacing.timeout w.now w.setting.signals).1.ended?
      (scope.withTimeout w.tracker.pacing.timeout w.now w.setting.signals).2 w.now = some reason := ended
  simp only [apply, Tracker.grant?, idle, first, Tracker.serve, Tracker.beginRefetch, still, lapsed]
  rfl

/-- Otherwise it gets its fetch, within a scope of its own. -/
theorem grant_letIn {ticket : Nat} {scope : Scope} {rest : List (Nat × Request)}
    (idle : w.tracker.busy = none) (first : w.tracker.waiting = (ticket, .refetch scope) :: rest)
    (paced : w.tracker.tooSoon? w.now = none)
    (going : (scope.withTimeout w.tracker.pacing.timeout w.now w.setting.signals).1.ended?
      w.setting.signals w.now = none) :
    (w.apply source .grant).tracker.busy = some ⟨ticket,
      (scope.withTimeout w.tracker.pacing.timeout w.now w.setting.signals).1, .due⟩ := by
  have still : { w.tracker with waiting := rest, busy := none }.tooSoon? w.now = none := paced
  have open_ : (scope.withTimeout w.tracker.pacing.timeout w.now w.setting.signals).1.ended?
      (scope.withTimeout w.tracker.pacing.timeout w.now w.setting.signals).2 w.now = none := going
  simp only [apply, Tracker.grant?, idle, first, Tracker.serve, Tracker.beginRefetch, still, open_]
  rfl

theorem conclude_due (busy : w.tracker.busy = some b) (due : b.fetch = .due) :
    w.apply source .conclude = w := by
  simp only [apply, Tracker.conclude?, busy, Option.bind_some, due, put]

theorem conclude_running {s : σ} (busy : w.tracker.busy = some b) (running : b.fetch = .running s)
    (going : b.scope.ended? w.setting.signals w.now = none) : w.apply source .conclude = w := by
  simp only [apply, Tracker.conclude?, busy, Option.bind_some, running, going, put]

theorem conclude_scopeEnded {reason : ScopeEnd} (busy : w.tracker.busy = some b) (begun : b.fetch ≠ .due)
    (ended : b.scope.ended? w.setting.signals w.now = some reason) :
    (w.apply source .conclude).tracker.replies =
      ⟨b.ticket, w.now, .refetched (.error (.fetchEnded reason))⟩ :: w.tracker.replies := by
  cases hf : b.fetch with
  | due => exact absurd hf begun
  | running s | ended outcome =>
    simp only [apply, Tracker.conclude?, busy, Option.bind_some, hf, ended, put]
    rfl

theorem conclude_fetched {outcome : Outcome Record} (busy : w.tracker.busy = some b)
    (fetched : b.fetch = .ended outcome) (going : b.scope.ended? w.setting.signals w.now = none) :
    (w.apply source .conclude).tracker.replies =
      ⟨b.ticket, w.now, .refetched (answerOf outcome)⟩ :: w.tracker.replies := by
  simp only [apply, Tracker.conclude?, busy, Option.bind_some, fetched, going, put]
  cases outcome <;> rfl

end World

/-- A fetch that was seen to end has ended like that, and was seen to end only once. -/
theorem Tells.of_ended {ticket time : Nat} {fetch : Fetch σ} {seen : List Sight} {outcome : Outcome Record}
    (h : Tells ticket fetch seen) (hs : .ended ticket time outcome ∈ seen) :
    fetch = .ended outcome ∧ ∀ time', .ended ticket time' outcome ∈ seen → time' = time := by
  cases h with
  | due => cases hs
  | running =>
    have := List.mem_singleton.1 hs
    cases this
  | ended _ =>
    simp only [List.mem_cons, Sight.ended.injEq, true_and, reduceCtorEq, List.not_mem_nil, or_false] at hs ⊢
    obtain ⟨rfl, rfl⟩ := hs
    exact ⟨rfl, fun time' same => same.1⟩

theorem sighted_others {w w' : World S σ} {e : Event S} (m : Moved w e w') {ticket : Nat}
    (away : ticket ∉ w.tracker.places) : ∀ s ∈ w.sighted w' e, s.ticket ≠ ticket := by
  intro s hs same
  cases m with
  | nothing he =>
    rw [World.sighted_self he] at hs
    cases hs
  | advanced ha =>
    obtain ⟨front, b, b', rest, old, new, -⟩ := ha.fetching
    rw [w.sighted_fetch old new] at hs
    refine away ?_
    rw [← same, (Refetch.of_mem_sights hs).1]
    refine Tracker.mem_places_of_fetching ?_
    rw [old]
    exact List.mem_append_right _ List.mem_cons_self
  | asked _ | granted _ | concluded _ | left _ | passed _ | around _ => cases hs

/-! ## After a grant -/

/-- A run up to the grant of a refetch: what came before, whose refetch it is, and within which
scope it is asked for. -/
structure Course (S σ : Type) where
  source : Operation S Unit σ Record
  pacing : Pacing
  setting : Setting S
  before : List (Event S)
  ticket : Nat
  scope : Scope

namespace Course

variable (c : Course S σ)

/-- The world in which the refetch is granted. -/
def start : World S σ := .play c.source c.pacing c.setting c.before

/-- The world after the grant and some events. -/
def world (mid : List (Event S)) : World S σ := .play c.source c.pacing c.setting (c.before ++ .grant :: mid)

/-- What is seen of fetches by then. -/
def seen (mid : List (Event S)) : List Sight :=
  World.sights c.source c.pacing c.setting (c.before ++ .grant :: mid)

/-- The scope of the fetch. -/
def own : Scope :=
  (c.scope.withTimeout c.start.tracker.pacing.timeout c.start.now c.start.setting.signals).1

theorem world_nil : c.world [] = c.start.apply c.source .grant := World.play_concat _ _ _ _ _

theorem append_concat (mid : List (Event S)) (e : Event S) :
    c.before ++ .grant :: (mid ++ [e]) = (c.before ++ .grant :: mid) ++ [e] := by
  rw [List.append_assoc, List.cons_append]

theorem world_concat (mid : List (Event S)) (e : Event S) :
    c.world (mid ++ [e]) = (c.world mid).apply c.source e := by
  rw [world, append_concat, World.play_concat, world]

theorem seen_concat (mid : List (Event S)) (e : Event S) :
    c.seen (mid ++ [e]) = (c.world mid).sighted (c.world (mid ++ [e])) e ++ c.seen mid := by
  rw [seen, append_concat, World.sights_concat, world, world, append_concat, seen]

theorem moved (mid : List (Event S)) (e : Event S) : Moved (c.world mid) e (c.world (mid ++ [e])) := by
  rw [world_concat]
  exact .of_apply c.source _ e

/-- The scope of the fetch has the earlier of the deadline of the caller's and that of its own,
and is cancelled when the caller's is or itself. -/
theorem own_spec : c.own.deadline = earlier c.scope.deadline (Instant.after? c.start.now c.pacing.timeout) ∧
    ∀ s : Signals, s.isRaised c.own.token = true ↔
      c.own.token.id ∈ s.raised ∨ s.isRaised c.scope.token = true := by
  constructor
  · rw [← pacing_play c.source c.pacing c.setting c.before]
    rfl
  · intro s
    simp only [Signals.isRaised_iff, List.mem_cons, own, Scope.withTimeout, Signals.child]
    constructor
    · rintro ⟨a, rfl | h, hr⟩
      · exact .inl hr
      · exact .inr ⟨a, h, hr⟩
    · rintro (hr | ⟨a, h, hr⟩)
      · exact ⟨_, .inl rfl, hr⟩
      · exact ⟨a, .inr h, hr⟩

end Course

/-! ## The contest -/

/-- The refetch has the tracker since its grant, and either its fetch nor its scope has ended, or
one of them has ended just now. -/
structure Contest (c : Course S σ) (mid : List (Event S)) (b : Refetch σ) : Prop where
  busy : (c.world mid).tracker.busy = some b
  ticket : b.ticket = c.ticket
  scope : b.scope = c.own
  fetched : ∀ outcome, b.fetch = .ended outcome → .ended c.ticket (c.world mid).now outcome ∈ c.seen mid
  scopeEnded : ∀ m, m <+: mid → (c.world m).HasEnded c.own →
    (c.world mid).HasEnded c.own ∧ (c.world m).now = (c.world mid).now
  /-- A deadline is passed on the grid of the clock. -/
  grid : ∀ m, m <+: mid → ∀ d, c.own.deadline = some d →
    (c.world m).now < d ∨ (c.world m).now = Instant.tick d

/-- What a refetch returns that ends in the world after `mid`. -/
inductive Settled (c : Course S σ) (mid : List (Event S)) : Except Failure Record → Prop
  /-- Its fetch has ended just now, and its scope has not ended. -/
  | fetched {outcome} : (∀ m, m <+: mid → ¬ (c.world m).HasEnded c.own) →
      .ended c.ticket (c.world mid).now outcome ∈ c.seen mid → Settled c mid (answerOf outcome)
  /-- Its scope has ended just now, and its fetch not before. -/
  | scopeEnded {reason} : c.own.EndedBy (c.world mid).setting.signals (c.world mid).now reason →
      (∀ m, m <+: mid → (c.world m).HasEnded c.own → (c.world m).now = (c.world mid).now) →
      (∀ time outcome, .ended c.ticket time outcome ∈ c.seen mid → time = (c.world mid).now) →
      Settled c mid (.error (.fetchEnded reason))

namespace Contest

variable {c : Course S σ} {mid : List (Event S)} {b b' : Refetch σ} {e : Event S}

theorem start {rest : List (Nat × Request)} (idle : c.start.tracker.busy = none)
    (first : c.start.tracker.waiting = (c.ticket, .refetch c.scope) :: rest)
    (paced : c.start.tracker.tooSoon? c.start.now = none)
    (going : c.own.ended? c.start.setting.signals c.start.now = none) :
    Contest c [] ⟨c.ticket, c.own, .due⟩ where
  busy := by
    rw [c.world_nil]
    exact World.grant_letIn idle first paced going
  ticket := rfl
  scope := rfl
  fetched := nofun
  scopeEnded m hm ended := by
    rw [List.prefix_nil.1 hm] at ended ⊢
    exact ⟨ended, rfl⟩
  grid m hm d hd := by
    rw [List.prefix_nil.1 hm, c.world_nil]
    have now : (c.start.apply c.source .grant).now = c.start.now := World.now_put _ _
    rw [now]
    exact .inl (Scope.lt_of_ended?_eq_none going hd)

/-- The fetch of the refetch was seen to end if and only if it has, and then just now. -/
theorem ended_of_seen (h : Contest c mid b) {time : Nat} {outcome : Outcome Record}
    (hs : .ended c.ticket time outcome ∈ c.seen mid) : b.fetch = .ended outcome ∧ time = (c.world mid).now := by
  have watched : Watched (c.world mid) (c.seen mid) := .play _ _ _ _
  have tells := watched.tells b (Tracker.fetching_of_busy h.busy ▸ List.mem_append_right _ List.mem_cons_self)
  rw [h.ticket] at tells
  obtain ⟨ended, only⟩ := tells.of_ended (mem_about.2 ⟨hs, rfl⟩)
  exact ⟨ended, (only _ (mem_about.2 ⟨h.fetched outcome ended, rfl⟩)).symm⟩

/-- No time passes once the fetch or the scope has ended. -/
theorem waits (h : Contest c mid b) {instant : Nat} (may : (c.world mid).MayPass c.source instant) :
    ¬ (c.world mid).HasEnded c.own ∧ ∀ outcome, b.fetch ≠ .ended outcome := by
  have going := may.going h.busy
  constructor
  · rw [← h.scope, World.HasEnded, going]
    exact Bool.false_ne_true
  · intro outcome ended
    have concluded := may.concluded
    simp only [Tracker.conclude?, h.busy, Option.bind_some, ended, going] at concluded
    cases concluded

section Step

theorem later (h : Contest c mid b) (keeps : c.source.KeepsCancelled) (allows : (c.world mid).Allows c.source e)
    {w' : World S σ} (next : c.world (mid ++ [e]) = w') (now : w'.now = (c.world mid).now)
    (busy : w'.tracker.busy = some b') (ticket : b'.ticket = b.ticket) (scope : b'.scope = b.scope)
    (fetched : ∀ outcome, b'.fetch = .ended outcome →
      .ended c.ticket (c.world mid).now outcome ∈ c.seen (mid ++ [e])) : Contest c (mid ++ [e]) b' where
  busy := by
    rw [next]
    exact busy
  ticket := ticket.trans h.ticket
  scope := scope.trans h.scope
  fetched := by
    rw [next, now]
    exact fetched
  scopeEnded m hm ended := by
    rcases List.prefix_concat_iff.1 hm with rfl | hm
    · exact ⟨ended, rfl⟩
    · obtain ⟨still, same⟩ := h.scopeEnded m hm ended
      rw [← now, ← next, c.world_concat] at same
      rw [c.world_concat]
      exact ⟨still.apply keeps allows, same⟩
  grid m hm d hd := by
    rcases List.prefix_concat_iff.1 hm with rfl | hm
    · rw [next, now]
      exact h.grid mid (List.prefix_refl mid) d hd
    · exact h.grid m hm d hd

theorem unchanged (h : Contest c mid b) (keeps : c.source.KeepsCancelled)
    (allows : (c.world mid).Allows c.source e) {w' : World S σ} (next : c.world (mid ++ [e]) = w')
    (now : w'.now = (c.world mid).now) (busy : w'.tracker.busy = some b) : Contest c (mid ++ [e]) b := by
  refine h.later keeps allows next now busy rfl rfl fun outcome ended => ?_
  rw [c.seen_concat]
  exact List.mem_append_right _ (h.fetched outcome ended)

theorem fetch (h : Contest c mid b) (keeps : c.source.KeepsCancelled) :
    ∃ b', Contest c (mid ++ [.fetch]) b' := by
  have m := c.moved mid .fetch
  have old := Tracker.fetching_of_busy h.busy
  have seen := c.seen_concat mid .fetch
  generalize hw : c.world (mid ++ [.fetch]) = w' at m seen
  cases m with
  | nothing _ => exact ⟨b, h.unchanged keeps trivial hw rfl h.busy⟩
  | advanced ha =>
    cases ha with
    | strayed _ _ => exact ⟨b, h.unchanged keeps trivial hw rfl h.busy⟩
    | @ran b0 b' started busy hs =>
      cases h.busy.symm.trans busy
      refine ⟨b', h.later keeps trivial hw rfl rfl hs.ticket hs.scope ?_⟩
      intro outcome ended
      rw [seen, World.sighted_fetch _ old rfl]
      refine List.mem_append_left _ ?_
      rw [← h.ticket]
      cases hs with
      | waits _ | goesOn _ => cases ended
      | came due | ended due =>
        cases ended
        simp only [Refetch.sights, due]
        exact List.mem_cons_self

theorem pass (h : Contest c mid b) {d : Nat} (allows : (c.world mid).Allows c.source (.pass d))
    (whole : (c.world mid).KeepsGrid (.pass d)) : Contest c (mid ++ [.pass d]) b := by
  obtain ⟨going, running⟩ := h.waits allows
  have next : c.world (mid ++ [.pass d]) = { c.world mid with now := (c.world mid).now + d } := c.world_concat _ _
  constructor
  · rw [next]
    exact h.busy
  · exact h.ticket
  · exact h.scope
  · intro outcome ended
    exact absurd ended (running outcome)
  · intro m hm ended
    rcases List.prefix_concat_iff.1 hm with rfl | hm
    · exact ⟨ended, rfl⟩
    · exact absurd (h.scopeEnded m hm ended).1 going
  · intro m hm due hd
    rcases List.prefix_concat_iff.1 hm with rfl | hm
    · rw [next]
      have within := World.MayPass.le_tick allows h.busy (h.scope ▸ hd)
      by_cases reached : due ≤ (c.world mid).now + d
      · exact .inr (Instant.eq_tick_of_le whole reached within)
      · exact .inl (Nat.lt_of_not_le reached)
    · exact h.grid m hm due hd

theorem conclude (h : Contest c mid b) (keeps : c.source.KeepsCancelled) :
    Contest c (mid ++ [.conclude]) b ∨ ∃ answer, Settled c mid answer ∧
      ⟨c.ticket, (c.world mid).now, .refetched answer⟩ ∈ (c.world (mid ++ [.conclude])).tracker.replies := by
  have next := c.world_concat mid .conclude
  have waiting (same : (c.world mid).apply c.source .conclude = c.world mid) :
      Contest c (mid ++ [.conclude]) b := by
    rw [same] at next
    exact h.unchanged keeps trivial next rfl h.busy
  cases ended : b.scope.ended? (c.world mid).setting.signals (c.world mid).now with
  | none =>
    cases hf : b.fetch with
    | due => exact .inl (waiting (World.conclude_due h.busy hf))
    | running s => exact .inl (waiting (World.conclude_running h.busy hf ended))
    | ended outcome =>
      refine .inr ⟨_, .fetched (fun m hm lapsed => ?_) (h.fetched outcome hf), ?_⟩
      · have still := (h.scopeEnded m hm lapsed).1
        rw [← h.scope, World.HasEnded, ended] at still
        cases still
      · rw [next, World.conclude_fetched h.busy hf ended, h.ticket]
        exact List.mem_cons_self
  | some reason =>
    by_cases due : b.fetch = .due
    · exact .inl (waiting (World.conclude_due h.busy due))
    · refine .inr ⟨_, .scopeEnded (Scope.ended?_eq_some_iff.1 (h.scope ▸ ended))
        (fun m hm lapsed => (h.scopeEnded m hm lapsed).2) fun time outcome hs => (h.ended_of_seen hs).2, ?_⟩
      rw [next, World.conclude_scopeEnded h.busy due ended, h.ticket]
      exact List.mem_cons_self

/-- **Whatever may happen next**, the contest goes on, the caller goes away, or it is told what
has come of its refetch. -/
theorem apply (h : Contest c mid b) (keeps : c.source.KeepsCancelled)
    (allows : (c.world mid).Allows c.source e)
    (whole : (c.world mid).KeepsGrid e) :
    (∃ b', Contest c (mid ++ [e]) b') ∨ e = .abandon c.ticket ∨
      e = .conclude ∧ ∃ answer, Settled c mid answer ∧
        ⟨c.ticket, (c.world mid).now, .refetched answer⟩ ∈ (c.world (mid ++ [e])).tracker.replies := by
  have next := c.world_concat mid e
  cases e with
  | fetch => exact .inl (h.fetch keeps)
  | pass d => exact .inl ⟨b, h.pass allows whole⟩
  | conclude => exact (h.conclude keeps).imp (⟨b, ·⟩) fun told => .inr ⟨rfl, told⟩
  | grant =>
    rw [World.grant_of_busy c.source h.busy] at next
    exact .inl ⟨b, h.unchanged keeps trivial next rfl h.busy⟩
  | request r =>
    exact .inl ⟨b, h.unchanged keeps trivial next rfl h.busy⟩
  | around setting =>
    exact .inl ⟨b, h.unchanged keeps allows next rfl h.busy⟩
  | abandon k =>
    by_cases own : k = c.ticket
    · exact .inr (.inl (by rw [own]))
    · have free : ¬ (c.world mid).tracker.Serves k := by
        rw [Tracker.Serves, h.busy, Option.map_some, h.ticket]
        exact fun he => own (Option.some.inj he).symm
      rw [World.apply, Tracker.abandon_of_not_serves free] at next
      exact .inl ⟨b, h.unchanged keeps trivial next rfl h.busy⟩

end Step

end Contest

/-! ## After the answer -/

/-- Whoever was answered has no fetch any more, and nothing is seen of one. -/
theorem silent_of_answered {source : Operation S Unit σ Record} {pacing : Pacing} {setting : Setting S}
    {events : List (Event S)} {r : Reply} (told : r ∈ (World.play source pacing setting events).tracker.replies)
    (e : Event S) : r ∈ (World.play source pacing setting (events ++ [e])).tracker.replies ∧
      about r.ticket (World.sights source pacing setting (events ++ [e])) =
        about r.ticket (World.sights source pacing setting events) := by
  have m := Moved.of_apply source (World.play source pacing setting events) e
  rw [← World.play_concat] at m
  have away := (Apart.play source pacing setting events).unanswered r told
  constructor
  · rcases m.replies.2 with same | ⟨reply, more, -⟩
    · exact same ▸ told
    · exact more ▸ List.mem_cons_of_mem _ told
  · rw [World.sights_concat, about_append_of_ne (sighted_others m away)]

/-- The refetch has returned an answer, in the world after `mid`. -/
structure Answered (c : Course S σ) (after mid : List (Event S)) (answer : Except Failure Record) : Prop where
  events : ∃ rest, after = mid ++ .conclude :: rest
  settled : Settled c mid answer
  /-- By then, a deadline was passed on the grid of the clock. -/
  grid : ∀ m, m <+: mid → ∀ d, c.own.deadline = some d →
    (c.world m).now < d ∨ (c.world m).now = Instant.tick d
  replied : ⟨c.ticket, (c.world mid).now, .refetched answer⟩ ∈ (c.world after).tracker.replies
  /-- Nothing was seen of its fetch since, and it can do nothing any more. -/
  silent : about c.ticket (c.seen after) = about c.ticket (c.seen mid)
  aborted : ∀ b ∈ (c.world after).tracker.fetching, b.ticket ≠ c.ticket

namespace Answered

variable {c : Course S σ} {after mid : List (Event S)} {answer : Except Failure Record}

theorem of_replied (events : ∃ rest, after = mid ++ .conclude :: rest) (settled : Settled c mid answer)
    (grid : ∀ m, m <+: mid → ∀ d, c.own.deadline = some d →
      (c.world m).now < d ∨ (c.world m).now = Instant.tick d)
    (replied : ⟨c.ticket, (c.world mid).now, .refetched answer⟩ ∈ (c.world after).tracker.replies)
    (silent : about c.ticket (c.seen after) = about c.ticket (c.seen mid)) : Answered c after mid answer where
  events := events
  settled := settled
  grid := grid
  replied := replied
  silent := silent
  aborted b hb own := by
    have apart : Apart (c.world after) := .play _ _ _ _
    exact apart.unanswered _ replied (own ▸ Tracker.mem_places_of_fetching hb)

theorem now (settled : Settled c mid answer)
    (grid : ∀ m, m <+: mid → ∀ d, c.own.deadline = some d →
      (c.world m).now < d ∨ (c.world m).now = Instant.tick d)
    (replied : ⟨c.ticket, (c.world mid).now, .refetched answer⟩ ∈
      (c.world (mid ++ [.conclude])).tracker.replies) : Answered c (mid ++ [.conclude]) mid answer := by
  refine .of_replied ⟨[], rfl⟩ settled grid replied ?_
  rw [c.seen_concat]
  rfl

theorem later (h : Answered c after mid answer) (e : Event S) : Answered c (after ++ [e]) mid answer := by
  obtain ⟨rest, rfl⟩ := h.events
  obtain ⟨replied, silent⟩ := silent_of_answered h.replied e
  rw [← Course.append_concat] at replied silent
  exact .of_replied ⟨rest ++ [e], by rw [List.append_assoc, List.cons_append]⟩ h.settled h.grid replied
    (silent.trans h.silent)

end Answered

/-! ## Every run -/

/-- What becomes of a refetch that is not refused when it is granted, in the events after that. -/
structure Raced (c : Course S σ) (after : List (Event S)) : Prop where
  /-- Its fetch has a scope that ends with the caller's, with its own deadline, or by itself. -/
  scope : c.own.deadline = earlier c.scope.deadline (Instant.after? c.start.now c.pacing.timeout) ∧
    ∀ s : Signals, s.isRaised c.own.token = true ↔
      c.own.token.id ∈ s.raised ∨ s.isRaised c.scope.token = true
  /-- If that has ended at the grant, as it has when the caller's has, it returns at once and
  there is never a fetch. -/
  inherited : c.start.HasEnded c.scope → c.start.HasEnded c.own
  barred : ∀ reason, c.own.EndedBy c.start.setting.signals c.start.now reason →
    ⟨c.ticket, c.start.now, .refetched (.error (.fetchEnded reason))⟩ ∈ (c.world after).tracker.replies ∧
      about c.ticket (c.seen after) = [] ∧ ∀ b ∈ (c.world after).tracker.fetching, b.ticket ≠ c.ticket
  /-- Otherwise the contest goes on, unless the caller has gone away, until it returns. -/
  decided : ¬ c.start.HasEnded c.own → c.ticket ∈ (c.world after).gone ∨ (∃ b, Contest c after b) ∨
    ∃ mid answer, Answered c after mid answer
  /-- While the contest goes on, no time passes once the fetch or its scope has ended, -/
  waits : ∀ b, Contest c after b → ∀ instant, (c.world after).MayPass c.source instant →
    ¬ (c.world after).HasEnded c.own ∧ ∀ time outcome, .ended c.ticket time outcome ∉ c.seen after
  /-- and then a step of the fetch and the tracker's next look are enough for an answer. -/
  answers : ∀ b, Contest c after b →
    ((c.world after).HasEnded c.own ∨ ∃ time outcome, .ended c.ticket time outcome ∈ c.seen after) →
      ∃ r ∈ (c.world (after ++ [.fetch, .conclude])).tracker.replies,
        r.ticket = c.ticket ∧ r.time = (c.world after).now

namespace Contest

variable {c : Course S σ} {mid : List (Event S)} {b : Refetch σ}

theorem fetch_of_ended (h : Contest c mid b) {outcome : Outcome Record} (ended : b.fetch = .ended outcome) :
    (c.world (mid ++ [.fetch])).tracker.busy = some b := by
  have m := c.moved mid .fetch
  generalize c.world (mid ++ [.fetch]) = w' at m
  cases m with
  | nothing _ => exact h.busy
  | advanced ha =>
    cases ha with
    | strayed _ _ => exact h.busy
    | ran busy hs =>
      cases h.busy.symm.trans busy
      cases hs with
      | waits due | came due | goesOn due | ended due => rw [ended] at due; cases due

theorem answers (h : Contest c mid b) (keeps : c.source.KeepsCancelled)
    (lapsed : (c.world mid).HasEnded c.own ∨ ∃ time outcome, .ended c.ticket time outcome ∈ c.seen mid) :
    ∃ r ∈ (c.world (mid ++ [.fetch, .conclude])).tracker.replies,
      r.ticket = c.ticket ∧ r.time = (c.world mid).now := by
  have now : (c.world (mid ++ [.fetch])).now = (c.world mid).now := by
    rw [c.world_concat]
    exact World.now_put _ _
  have split : mid ++ [.fetch, .conclude] = (mid ++ [.fetch]) ++ [.conclude] := by rw [List.append_assoc]; rfl
  obtain ⟨b', next, begun, lapsed⟩ : ∃ b', Contest c (mid ++ [.fetch]) b' ∧ b'.fetch ≠ .due ∧
      ((c.world (mid ++ [.fetch])).HasEnded c.own ∨ ∃ outcome, b'.fetch = .ended outcome) := by
    obtain ⟨b', next⟩ := h.fetch keeps
    rcases lapsed with ended | ⟨time, outcome, hs⟩
    · obtain ⟨b'', busy, -, -, begun⟩ := World.fetch_begun c.source h.busy
      rw [← c.world_concat] at busy
      cases next.busy.symm.trans busy
      refine ⟨b', next, begun, .inl ?_⟩
      rw [c.world_concat]
      exact ended.apply keeps trivial
    · have ended := (h.ended_of_seen hs).1
      cases next.busy.symm.trans (h.fetch_of_ended ended)
      exact ⟨_, next, by rw [ended]; exact nofun, .inr ⟨outcome, ended⟩⟩
  rw [split, ← now]
  have conclude := c.world_concat (mid ++ [.fetch]) .conclude
  cases hs : b'.scope.ended? (c.world (mid ++ [.fetch])).setting.signals (c.world (mid ++ [.fetch])).now with
  | some reason =>
    rw [conclude, World.conclude_scopeEnded next.busy begun hs, next.ticket]
    exact ⟨_, List.mem_cons_self, rfl, rfl⟩
  | none =>
    rcases lapsed with ended | ⟨outcome, ended⟩
    · rw [← next.scope, World.HasEnded, hs] at ended
      cases ended
    · rw [conclude, World.conclude_fetched next.busy ended hs, next.ticket]
      exact ⟨_, List.mem_cons_self, rfl, rfl⟩

end Contest

variable {c : Course S σ} {after : List (Event S)}

/-- A refetch that is let in competes until it returns or its caller goes away. -/
theorem decided_of_letIn (keeps : c.source.KeepsCancelled) (start : ∃ b, Contest c [] b)
    (prompt : (c.world []).Prompt c.source after) (grid : (c.world []).OnGrid c.source after) :
    c.ticket ∈ (c.world after).gone ∨ (∃ b, Contest c after b) ∨
      ∃ mid answer, Answered c after mid answer := by
  induction after using List.reverseRecOn with
  | nil => exact .inr (.inl start)
  | append_singleton mid e ih =>
    obtain ⟨first, last⟩ := World.prompt_append.1 prompt
    obtain ⟨first', last'⟩ := World.onGrid_append.1 grid
    have reached : mid.foldl (World.apply c.source) (c.world []) = c.world mid := by
      have split : c.before ++ .grant :: mid = (c.before ++ [.grant]) ++ mid := by
        rw [List.append_assoc, List.singleton_append]
      simp only [Course.world, split, World.play, List.foldl_append]
    rw [reached] at last last'
    rcases ih first first' with gone | ⟨b, contest⟩ | ⟨m, answer, returned⟩
    · have m := c.moved mid e
      generalize c.world (mid ++ [e]) = w' at m
      refine .inl ?_
      cases m with
      | left k => exact List.mem_cons_of_mem _ gone
      | _ => exact gone
    · rcases contest.apply keeps last.1 last'.1 with next | rfl | ⟨rfl, answer, settled, replied⟩
      · exact .inr (.inl next)
      · rw [c.world_concat]
        exact .inl List.mem_cons_self
      · exact .inr (.inr ⟨mid, answer, .now settled contest.grid replied⟩)
    · exact .inr (.inr ⟨m, answer, returned.later e⟩)

/-- A refetch that is answered at its grant has no fetch, ever. -/
theorem barred_play {rest : List (Nat × Request)} (idle : c.start.tracker.busy = none)
    (first : c.start.tracker.waiting = (c.ticket, .refetch c.scope) :: rest)
    (paced : c.start.tracker.tooSoon? c.start.now = none) {reason : ScopeEnd}
    (ended : c.own.EndedBy c.start.setting.signals c.start.now reason) (after : List (Event S)) :
    ⟨c.ticket, c.start.now, .refetched (.error (.fetchEnded reason))⟩ ∈ (c.world after).tracker.replies ∧
      about c.ticket (c.seen after) = [] ∧ ∀ b ∈ (c.world after).tracker.fetching, b.ticket ≠ c.ticket := by
  have told : ⟨c.ticket, c.start.now, .refetched (.error (.fetchEnded reason))⟩ ∈
      (c.world after).tracker.replies ∧ about c.ticket (c.seen after) = [] := by
    induction after using List.reverseRecOn with
    | nil =>
      constructor
      · rw [c.world_nil, World.grant_barred idle first paced (Scope.ended?_eq_some_iff.2 ended)]
        exact List.mem_cons_self
      · have watched : Watched c.start (World.sights c.source c.pacing c.setting c.before) := .play _ _ _ _
        have unseen := watched.unseen (.play _ _ _ _) (p := (c.ticket, .refetch c.scope))
          (first ▸ List.mem_cons_self)
        rw [Course.seen, World.sights_concat]
        exact unseen
    | append_singleton mid e ih =>
      obtain ⟨replied, silent⟩ := silent_of_answered ih.1 e
      rw [← Course.append_concat] at replied silent
      exact ⟨replied, silent.trans ih.2⟩
  refine ⟨told.1, told.2, fun b hb own => ?_⟩
  have apart : Apart (c.world after) := .play _ _ _ _
  exact apart.unanswered _ told.1 (own ▸ Tracker.mem_places_of_fetching hb)

/-- **A fetch is raced against its scope.** The events after the grant are prompt, and the clock
stops at whole milliseconds. What happens at an instant after the tracker has looked at the
refetch, is too late for it. -/
theorem play_raced (keeps : c.source.KeepsCancelled) {rest : List (Nat × Request)}
    (idle : c.start.tracker.busy = none)
    (first : c.start.tracker.waiting = (c.ticket, .refetch c.scope) :: rest)
    (paced : c.start.tracker.tooSoon? c.start.now = none) (prompt : (c.world []).Prompt c.source after)
    (grid : (c.world []).OnGrid c.source after) : Raced c after where
  scope := c.own_spec
  inherited ended := by
    have inherits : c.scope.Inherits c.own := .withTimeout _ _ _ _
    have le := inherits.severity_le c.start.setting.signals c.start.now
    exact (Scope.isSome_iff_severity_pos _).2 (Nat.lt_of_lt_of_le ((Scope.isSome_iff_severity_pos _).1 ended) le)
  barred reason ended := barred_play idle first paced ended after
  decided going :=
    decided_of_letIn keeps ⟨_, .start idle first paced (Option.not_isSome_iff_eq_none.1 going)⟩ prompt grid
  waits b contest instant may := by
    obtain ⟨going, running⟩ := contest.waits may
    exact ⟨going, fun time outcome hs => running outcome (contest.ended_of_seen hs).1⟩
  answers b contest lapsed := contest.answers keeps lapsed

/-- A fetch that takes 11 ms, for a caller with a deadline of 10.5 ms: its scope ends at the very
instant at which it comes to a record, and that is what the caller is told. -/
theorem raced_to_a_tie :
    let source : Operation Unit Unit (Scope × Activity Record) Record :=
      .scripted (fun _ _ => .sleep 11000000 (.finish (.value ⟨5, 1⟩))) (fun _ _ s => s) (fun _ s => s)
    let scope : Scope := ⟨⟨0, []⟩, some 10500000⟩
    let c : Course Unit (Scope × Activity Record) :=
      ⟨source, .sparse, ⟨⟨1, []⟩, [], ()⟩, [.request (.refetch scope)], 0, scope⟩
    let after : List (Event Unit) := [.fetch, .pass 11000000, .fetch, .conclude]
    Raced c after ∧
      (c.seen after).map (fun s => (s.time, s matches .ended _ _ (.value ⟨5, 1⟩))) =
        [(11000000, true), (0, false)] ∧
      (c.world after).tracker.replies.map (fun r =>
        (r.ticket, r.time, r.answer matches .refetched (.error (.fetchEnded .deadlineExceeded)))) =
          [(0, 11000000, true)] := by
  intro source scope c after
  have keeps : source.KeepsCancelled := Operation.scripted_keepsCancelled _ _ _
  have prompt : (c.world []).Prompt c.source after := by
    refine ⟨trivial, ⟨?_, ?_, ?_, by decide +kernel⟩, trivial, trivial, trivial⟩ <;>
      exact Option.isNone_iff_eq_none.1 (by decide +kernel)
  have grid : (c.world []).OnGrid c.source after :=
    ⟨trivial, by decide +kernel, trivial, trivial, trivial⟩
  exact ⟨play_raced (c := c) keeps rfl rfl rfl prompt grid, by decide +kernel, by decide +kernel⟩

end CallGuard.Sequence
