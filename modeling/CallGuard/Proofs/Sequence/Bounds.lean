/-
How long a refetch takes at most. Once it is its turn it is over as soon as its scope has
ended or the time for a fetch is up; but while others have the tracker it waits, whether its
scope has ended or not, for at most as long as their fetches may take.
-/
import CallGuard.Proofs.Sequence.Apart
import CallGuard.Proofs.Sequence.Turns

namespace CallGuard.Sequence

variable {S σ : Type} {source : Operation S Unit σ Record}

/-- The caller with a ticket went away, or was answered by an instant. -/
def Over (ticket limit : Nat) (w : World S σ) : Prop :=
  ticket ∈ w.gone ∨ ∃ r ∈ w.tracker.replies, r.ticket = ticket ∧ r.time ≤ limit

/-- The caller with a ticket waits no longer than until an instant. -/
def ReturnsBy (ticket limit : Nat) (w : World S σ) : Prop := Over ticket limit w ∨ w.now ≤ limit

namespace Over

variable {w w' : World S σ} {e : Event S} {ticket limit limit' : Nat}

theorem mono (h : Over ticket limit w) (le : limit ≤ limit') : Over ticket limit' w :=
  h.imp_right fun ⟨r, hr, own, time⟩ => ⟨r, hr, own, Nat.le_trans time le⟩

theorem moved (h : Over ticket limit w) (m : Moved w e w') : Over ticket limit w' := by
  rcases h with gone | ⟨r, hr, own, time⟩
  · refine .inl ?_
    cases m with
    | left k => exact List.mem_cons_of_mem _ gone
    | nothing _ | asked r | granted _ | advanced _ | concluded _ | passed d | around setting => exact gone
  · refine .inr ⟨r, ?_, own, time⟩
    rcases m.replies.2 with same | ⟨reply, more, -⟩
    · exact same ▸ hr
    · exact more ▸ List.mem_cons_of_mem _ hr

theorem answered {now : Nat} {answer : Answer} {replies : List Reply}
    (h : w.tracker.replies = ⟨ticket, now, answer⟩ :: replies) : Over ticket now w :=
  .inr ⟨_, h ▸ List.mem_cons_self, rfl, Nat.le_refl _⟩

end Over

/-! ## While the tracker attends to a refetch -/

/-- Since `since` the tracker attends to a refetch within a scope: it is first in line and
nobody has the tracker, or it has the tracker itself, within a scope of its own. -/
inductive Attended (ticket : Nat) (scope : Scope) (since : Nat) (w : World S σ) : Prop
  | first {waiting : List (Nat × Request)} : w.tracker.busy = none →
      w.tracker.waiting = (ticket, .refetch scope) :: waiting → w.now = since →
      Attended ticket scope since w
  | serves {b : Refetch σ} : w.tracker.busy = some b → b.ticket = ticket → scope.Inherits b.scope →
      b.scope.deadline = earlier scope.deadline (Instant.after? since w.tracker.pacing.timeout) →
      Attended ticket scope since w

namespace Attended

variable {w : World S σ} {e : Event S} {ticket since : Nat} {scope : Scope}

theorem grant {waiting : List (Nat × Request)} (idle : w.tracker.busy = none)
    (first : w.tracker.waiting = (ticket, .refetch scope) :: waiting) :
    Over ticket w.now (w.apply source .grant) ∨ Attended ticket scope w.now (w.apply source .grant) := by
  simp only [World.apply, Tracker.grant?, idle, first, Tracker.serve, Tracker.beginRefetch]
  split
  · exact .inl (.answered rfl)
  · split
    · exact .inl (.answered rfl)
    · exact .inr (.serves rfl rfl (.withTimeout scope _ _ _) rfl)

theorem abandon (h : Attended ticket scope since w) (k : Nat) :
    Over ticket w.now (w.apply source (.abandon k)) ∨
      Attended ticket scope since (w.apply source (.abandon k)) := by
  by_cases own : k = ticket
  · exact .inl (.inl (own ▸ List.mem_cons_self))
  · right
    have left (free : ¬ w.tracker.Serves k) : w.apply source (.abandon k) =
        { w with
          tracker := { w.tracker with waiting := w.tracker.waiting.filter (·.1 != k) }
          gone := k :: w.gone } := by
      rw [World.apply, Tracker.abandon_of_not_serves free]
    cases h with
    | @first waiting idle first now =>
      have kept : w.tracker.waiting.filter (·.1 != k) =
          (ticket, .refetch scope) :: waiting.filter (·.1 != k) := by
        rw [first, List.filter_cons_of_pos]
        exact bne_iff_ne.2 (Ne.symm own)
      rw [left (by simp [Tracker.Serves, idle])]
      exact .first idle kept now
    | serves busy same inherits deadline =>
      rw [left fun serves => own ?_]
      · exact .serves busy same inherits deadline
      · rw [Tracker.Serves, busy] at serves
        exact (Option.some.inj serves).symm.trans same

theorem fetch (h : Attended ticket scope since w) :
    Attended ticket scope since (w.apply source .fetch) := by
  have m := Moved.of_apply source w .fetch
  generalize w.apply source .fetch = w' at m
  cases m with
  | nothing _ => exact h
  | advanced ha =>
    cases h with
    | first idle first now =>
      cases ha with
      | ran busy _ => cases idle.symm.trans busy
      | strayed _ _ => exact .first idle first now
    | serves busy same inherits deadline =>
      cases ha with
      | ran busy' hs =>
        cases busy.symm.trans busy'
        cases hs <;> exact .serves rfl same inherits deadline
      | strayed _ _ => exact .serves busy same inherits deadline

theorem conclude (h : Attended ticket scope since w) :
    Over ticket w.now (w.apply source .conclude) ∨
      Attended ticket scope since (w.apply source .conclude) := by
  have m := Moved.of_apply source w .conclude
  generalize w.apply source .conclude = w' at m
  cases m with
  | nothing _ => exact .inr h
  | concluded hc =>
    left
    cases h with
    | first idle _ _ =>
      cases hc with
      | refreshed busy _ | failed busy _ => cases idle.symm.trans busy
    | serves busy same _ _ =>
      subst same
      cases hc with
      | refreshed busy' _ | failed busy' _ =>
        cases busy.symm.trans busy'
        exact .answered rfl

theorem apply (h : Attended ticket scope since w) (allows : w.Allows source e) :
    Over ticket w.now (w.apply source e) ∨ Attended ticket scope since (w.apply source e) := by
  cases e with
  | fetch => exact .inr h.fetch
  | conclude => exact h.conclude
  | abandon k => exact h.abandon k
  | around setting =>
    cases h with
    | first idle first now => exact .inr (.first idle first now)
    | serves busy same inherits deadline => exact .inr (.serves busy same inherits deadline)
  | request r =>
    cases h with
    | first idle first now => exact .inr (.first idle (congrArg (· ++ [_]) first) now)
    | serves busy same inherits deadline => exact .inr (.serves busy same inherits deadline)
  | grant =>
    cases h with
    | first idle first now => exact now ▸ grant idle first
    | serves busy same inherits deadline =>
      rw [World.grant_of_busy source busy]
      exact .inr (.serves busy same inherits deadline)
  | pass d =>
    cases h with
    | first idle first _ =>
      obtain ⟨b, busy⟩ := World.MayPass.busy allows (first ▸ List.cons_ne_nil _ _)
      cases idle.symm.trans busy
    | serves busy same inherits deadline => exact .inr (.serves busy same inherits deadline)

/-- While time may pass, the scope of the refetch has not ended, and time does not pass
beyond its deadline, nor beyond the time for a fetch. -/
theorem pass (h : Attended ticket scope since w) {instant : Nat} (may : w.MayPass source instant) :
    ¬ w.HasEnded scope ∧
      ∀ due, scope.deadline = some due ∨ Instant.after? since w.tracker.pacing.timeout = some due →
        instant ≤ Instant.tick due := by
  cases h with
  | first idle first _ =>
    obtain ⟨b, busy⟩ := may.busy (first ▸ List.cons_ne_nil _ _)
    cases idle.symm.trans busy
  | @serves b busy same inherits deadline =>
    refine ⟨fun ended => ?_, fun due hdue => ?_⟩
    · have le := inherits.severity_le w.setting.signals w.now
      rw [may.going busy] at le
      exact absurd le (Nat.not_le.2 ((Scope.isSome_iff_severity_pos _).1 ended))
    · obtain ⟨d, hd, le⟩ := earlier_le hdue
      exact Nat.le_trans (may.le_tick busy (deadline.trans hd)) (Instant.tick_le_tick le)

end Attended

/-! ## Refetches whose scopes have ended -/

namespace World

variable {w : World S σ} {b : Refetch σ}

theorem fetch_begun (source : Operation S Unit σ Record) (busy : w.tracker.busy = some b) :
    ∃ b', (w.apply source .fetch).tracker.busy = some b' ∧ b'.ticket = b.ticket ∧ b'.scope = b.scope ∧
      b'.fetch ≠ .due := by
  by_cases due : b.fetch = .due
  · simp only [apply, Tracker.fetchStep?, busy, Option.bind_some, Tracker.fetch?, due, put]
    generalize source.start () _ b.scope w.now w.setting = p
    obtain ⟨setting, p⟩ := p
    cases p <;> exact ⟨_, rfl, rfl, rfl, fun he => by cases he⟩
  · have m := Moved.of_apply source w .fetch
    generalize w.apply source .fetch = w' at m
    cases m with
    | nothing _ => exact ⟨b, busy, rfl, rfl, due⟩
    | advanced ha =>
      cases ha with
      | ran busy' hs =>
        cases busy.symm.trans busy'
        exact ⟨_, rfl, hs.ticket, hs.scope, hs.begun⟩
      | strayed _ _ => exact ⟨b, busy, rfl, rfl, due⟩

/-- A refetch that has begun and whose scope has ended gives up. -/
theorem conclude_over (source : Operation S Unit σ Record) (busy : w.tracker.busy = some b)
    (begun : b.fetch ≠ .due) (ended : w.HasEnded b.scope) :
    Over b.ticket w.now (w.apply source .conclude) := by
  obtain ⟨reason, hs⟩ := Option.isSome_iff_exists.1 ended
  cases hf : b.fetch with
  | due => exact absurd hf begun
  | running s | ended outcome =>
    simp only [apply, Tracker.conclude?, busy, Option.bind_some, hf, hs, put]
    exact .answered rfl

/-- A refetch whose scope has ended before it is served is answered at once. -/
theorem grant_over (source : Operation S Unit σ Record) {ticket : Nat} {scope : Scope}
    {waiting : List (Nat × Request)} (idle : w.tracker.busy = none)
    (first : w.tracker.waiting = (ticket, .refetch scope) :: waiting) (ended : w.HasEnded scope) :
    Over ticket w.now (w.apply source .grant) := by
  simp only [apply, Tracker.grant?, idle, first, Tracker.serve, Tracker.beginRefetch]
  split
  · exact .answered rfl
  · split
    · exact .answered rfl
    · rename_i going
      have le := (Scope.Inherits.withTimeout scope w.tracker.pacing.timeout w.now w.setting.signals).severity_le
        (scope.withTimeout w.tracker.pacing.timeout w.now w.setting.signals).2 w.now
      rw [going] at le
      exact absurd le (Nat.not_le.2 ((Scope.isSome_iff_severity_pos _).1 ended))

end World

/-! ## Until it is its turn -/

/-- A refetch within a scope has its turn by an instant: it is in line, and those ahead of
it are done by then, or it is attended to since then or earlier. -/
inductive Coming (ticket : Nat) (scope : Scope) (turn : Nat) (w : World S σ) : Prop
  | waits {front rest : List (Nat × Request)} {free last : Nat} :
      w.tracker.waiting = front ++ (ticket, .refetch scope) :: rest → FreeBy free w →
      w.tracker.pacing.turns front.length free = some last → last ≤ turn → Coming ticket scope turn w
  | attended {since : Nat} : since ≤ turn → Attended ticket scope since w → Coming ticket scope turn w

namespace Coming

variable {w : World S σ} {e : Event S} {ticket turn : Nat} {scope : Scope}

theorem occupied {front rest : List (Nat × Request)} {p : Nat × Request}
    (line : w.tracker.waiting = front ++ p :: rest) : w.tracker.waiting ≠ [] := by
  rw [line]
  exact List.append_ne_nil_of_right_ne_nil _ (List.cons_ne_nil _ _)

section

variable {front rest : List (Nat × Request)} {free last : Nat}

theorem abandon (line : w.tracker.waiting = front ++ (ticket, .refetch scope) :: rest) (free_by : FreeBy free w)
    (turns : w.tracker.pacing.turns front.length free = some last) (le : last ≤ turn) (k : Nat) :
    Over ticket w.now (w.apply source (.abandon k)) ∨ Coming ticket scope turn (w.apply source (.abandon k)) := by
  by_cases own : k = ticket
  · exact .inl (.inl (own ▸ List.mem_cons_self))
  · have m := Moved.of_apply source w (.abandon k)
    obtain ⟨-, -, -, -, kept⟩ := w.tracker.abandon_kept k
    have line' : (w.tracker.abandon k).waiting =
        front.filter (·.1 != k) ++ (ticket, .refetch scope) :: rest.filter (·.1 != k) := by
      rw [kept, line, List.filter_append, List.filter_cons_of_pos]
      exact bne_iff_ne.2 (Ne.symm own)
    obtain ⟨last', turns', le'⟩ :=
      Pacing.turns_mono (List.length_filter_le (·.1 != k) front) (Nat.le_refl free) turns
    exact .inr (.waits line' (free_by.moved m nofun free_by.now) (m.pacing ▸ turns') (Nat.le_trans le' le))

/-- With each grant there is one turn less to wait for, until it is its own. -/
theorem grant (line : w.tracker.waiting = front ++ (ticket, .refetch scope) :: rest) (free_by : FreeBy free w)
    (turns : w.tracker.pacing.turns front.length free = some last) (le : last ≤ turn) :
    Over ticket w.now (w.apply source .grant) ∨ Coming ticket scope turn (w.apply source .grant) := by
  cases busy : w.tracker.busy with
  | some b =>
    rw [World.grant_of_busy source busy]
    exact .inr (.waits line free_by turns le)
  | none =>
    cases front with
    | nil =>
      cases turns
      exact (Attended.grant busy line).imp_right (.attended (Nat.le_trans free_by.now le))
    | cons p front =>
      obtain ⟨due, reached, turns⟩ := Pacing.turns_succ turns
      obtain ⟨t, setting, granted, he⟩ := World.apply_grant source busy line
      obtain ⟨p', first, -, -⟩ := granted.first
      have line' : (w.apply source .grant).tracker.waiting = front ++ (ticket, .refetch scope) :: rest := by
        rw [he]
        exact (List.cons.inj (first.symm.trans line)).2
      have pacing := (Moved.of_apply source w .grant).pacing
      exact .inr (.waits line' (free_by.grant busy reached) (pacing ▸ turns) le)

end

theorem apply (h : Coming ticket scope turn w) (allows : w.Allows source e) :
    Over ticket w.now (w.apply source e) ∨ Coming ticket scope turn (w.apply source e) := by
  cases h with
  | attended le h => exact (h.apply allows).imp_right (.attended le)
  | @waits front rest free last line free_by turns le =>
    have m := Moved.of_apply source w e
    have here (other : e ≠ .grant) (now : (w.apply source e).now ≤ free)
        (line' : (w.apply source e).tracker.waiting = w.tracker.waiting) :
        Coming ticket scope turn (w.apply source e) :=
      .waits (line'.trans line) (free_by.moved m other now) (m.pacing ▸ turns) le
    cases e with
    | grant => exact grant line free_by turns le
    | abandon k => exact abandon line free_by turns le k
    | around setting => exact .inr (here nofun free_by.now rfl)
    | pass d => exact .inr (here nofun (free_by.pass (occupied line) allows) rfl)
    | fetch =>
      obtain ⟨now, line'⟩ := m.line (.inl rfl)
      exact .inr (here nofun (now ▸ free_by.now) line')
    | conclude =>
      obtain ⟨now, line'⟩ := m.line (.inr rfl)
      exact .inr (here nofun (now ▸ free_by.now) line')
    | request r =>
      have behind : w.tracker.waiting ++ [(w.tracker.tickets, r)] =
          front ++ (ticket, .refetch scope) :: (rest ++ [(w.tracker.tickets, r)]) := by
        rw [line, List.append_assoc, List.cons_append]
      exact .inr (.waits behind (free_by.moved m nofun free_by.now) turns le)

/-- While time may pass, it is not the turn of the refetch yet, or its scope has not ended
and time does not pass beyond its deadline, nor beyond the time for a fetch. -/
theorem pass (h : Coming ticket scope turn w) {instant : Nat} (may : w.MayPass source instant) :
    instant ≤ turn ∨ ¬ w.HasEnded scope ∧
      ∀ due, scope.deadline = some due ∨ Instant.after? turn w.tracker.pacing.timeout = some due →
        instant ≤ Instant.tick due := by
  cases h with
  | @waits front rest free last line free_by turns le =>
    exact .inl (Nat.le_trans (free_by.pass (occupied line) may) (Nat.le_trans (Pacing.le_turns turns) le))
  | attended le h =>
    obtain ⟨going, within⟩ := h.pass may
    refine .inr ⟨going, fun due hdue => ?_⟩
    rcases hdue with deadline | reached
    · exact within due (.inl deadline)
    · obtain ⟨due', reached', due_le⟩ := Instant.after?_mono le reached
      exact Nat.le_trans (within due' (.inr reached')) (Instant.tick_le_tick due_le)

end Coming

/-- A refetch is to be over by an instant: it has its turn, and by then its scope has ended
or the time for a fetch is up. -/
structure Pressed (ticket : Nat) (scope : Scope) (turn limit : Nat) (w : World S σ) : Prop where
  coming : Coming ticket scope turn w
  now : w.now ≤ limit
  turn_le : turn ≤ limit
  ends : w.HasEnded scope ∨ ∃ due, Instant.tick due ≤ limit ∧
    (scope.deadline = some due ∨ Instant.after? turn w.tracker.pacing.timeout = some due)

namespace Pressed

variable {w : World S σ} {e : Event S} {ticket turn limit : Nat} {scope : Scope}

theorem apply (h : Pressed ticket scope turn limit w) (keeps : source.KeepsCancelled)
    (allows : w.Allows source e) :
    Over ticket limit (w.apply source e) ∨ Pressed ticket scope turn limit (w.apply source e) := by
  have m := Moved.of_apply source w e
  rcases h.coming.apply allows with past | coming
  · exact .inl (past.mono h.now)
  · have ends : _ ∨ _ := h.ends.imp_left (·.apply keeps allows)
    rw [← m.pacing] at ends
    refine .inr ⟨coming, ?_, h.turn_le, ends⟩
    cases e with
    | pass d =>
      rcases h.coming.pass allows with before | ⟨going, within⟩
      · exact Nat.le_trans before h.turn_le
      · rcases h.ends with ended | ⟨due, tick_le, hdue⟩
        · exact absurd ended going
        · exact Nat.le_trans (within due hdue) tick_le
    | request _ | abandon _ | around _ => exact h.now
    | grant | fetch | conclude => exact (World.now_put _ _).symm ▸ h.now

theorem returns (h : Pressed ticket scope turn limit w) (keeps : source.KeepsCancelled)
    {events : List (Event S)} (prompt : w.Prompt source events) :
    ReturnsBy ticket limit (events.foldl (World.apply source) w) := by
  have kept := prompt.keep (P := fun w => Over ticket limit w ∨ Pressed ticket scope turn limit w)
    (fun w e allows h => h.elim (fun past => .inl (past.moved (.of_apply source w e)))
      fun pressed => pressed.apply keeps allows) (.inr h)
  exact kept.imp_right (·.now)

end Pressed

/-- From `u` on, a refetch that has its turn by an instant ends with its scope. -/
structure Punctual (source : Operation S Unit σ Record) (ticket : Nat) (scope : Scope) (turn : Nat)
    (u : World S σ) (after : List (Event S)) : Prop where
  /-- When its scope has ended, for whatever reason, no more time passes before it is over
  too, unless its turn is still to come. -/
  ended : ∀ mid rest v, after = mid ++ rest → v = mid.foldl (World.apply source) u → v.HasEnded scope →
    ReturnsBy ticket (max turn v.now) (after.foldl (World.apply source) u)
  /-- Nor does it outlast the deadline of its scope, on the grid of the clock. -/
  deadline : ∀ due, scope.deadline = some due →
    ReturnsBy ticket (max turn (Instant.tick due)) (after.foldl (World.apply source) u)
  /-- Nor the time for a fetch. -/
  timeout : ∀ due, Instant.after? turn u.tracker.pacing.timeout = some due →
    ReturnsBy ticket (Instant.tick due) (after.foldl (World.apply source) u)

theorem Coming.punctual {u : World S σ} {ticket turn : Nat} {scope : Scope} (h : Coming ticket scope turn u)
    (now : u.now ≤ turn) (keeps : source.KeepsCancelled) {after : List (Event S)}
    (prompt : u.Prompt source after) : Punctual source ticket scope turn u after where
  ended := by
    rintro mid rest v rfl rfl ended
    obtain ⟨first, later⟩ := World.prompt_append.1 prompt
    rw [List.foldl_append]
    have kept := first.keep (P := fun w => Over ticket w.now w ∨ Coming ticket scope turn w)
      (fun w e allows h => ?_) (.inr h)
    · rcases kept with past | coming
      · have still := later.keep (P := Over ticket (mid.foldl (World.apply source) u).now)
          (fun w e _ past => past.moved (.of_apply source w e)) past
        exact .inl (still.mono (Nat.le_max_right _ _))
      · exact Pressed.returns ⟨coming, Nat.le_max_right _ _, Nat.le_max_left _ _, .inl ended⟩ keeps later
    · have m := Moved.of_apply source w e
      rcases h with past | coming
      · exact .inl ((past.moved m).mono m.replies.1)
      · exact (coming.apply allows).imp_left (·.mono m.replies.1)
  deadline due hd :=
    Pressed.returns ⟨h, Nat.le_trans now (Nat.le_max_left _ _), Nat.le_max_left _ _,
      .inr ⟨due, Nat.le_max_right _ _, .inl hd⟩⟩ keeps prompt
  timeout due reached := by
    have turn_le := Instant.le_tick_of_after? reached
    exact Pressed.returns ⟨h, Nat.le_trans now turn_le, turn_le, .inr ⟨due, Nat.le_refl _, .inr reached⟩⟩
      keeps prompt

/-- How many refetches there may be ahead of a request that is made now. -/
def Tracker.ahead (t : Tracker σ) : Nat := t.waiting.length + t.busy.toList.length

/-- With a new request its turn is coming. -/
theorem Leased.coming {u : World S σ} (leased : Leased u) (source : Operation S Unit σ Record)
    (scope : Scope) {turn : Nat}
    (turns : u.tracker.pacing.turns u.tracker.ahead u.now = some turn) :
    Coming u.tracker.tickets scope turn (u.apply source (.request (.refetch scope))) := by
  unfold Tracker.ahead at turns
  cases busy : u.tracker.busy with
  | none =>
    rw [busy] at turns
    have free : FreeBy u.now u := ⟨Nat.le_refl _, fun b hb => by cases busy.symm.trans hb⟩
    exact .waits rfl (free.moved (.asked _) nofun (Nat.le_refl _)) turns (Nat.le_refl _)
  | some b =>
    rw [busy] at turns
    obtain ⟨due, reached, turns⟩ := Pacing.turns_succ turns
    have free := FreeBy.of_leased leased reached
    exact .waits rfl (free.moved (.asked _) nofun free.now) turns (Nat.le_refl _)

/-- The law of how long refetches take. -/
structure Bounded (source : Operation S Unit σ Record) (pacing : Pacing) (setting : Setting S)
    (events : List (Event S)) (w : World S σ) : Prop where
  /-- A refetch has its turn after the time that the fetches of all ahead of it may take: at
  once when there is nobody. Then it ends with its scope. -/
  made : ∀ before scope after u, events = before ++ .request (.refetch scope) :: after →
    u = World.play source pacing setting before →
      ∀ turn, pacing.turns u.tracker.ahead u.now = some turn →
        Punctual source u.tracker.tickets scope turn (u.apply source (.request (.refetch scope))) after
  /-- Its turn comes no later than when it is first in line and nobody has the tracker. -/
  first : ∀ before after u, events = before ++ after → u = World.play source pacing setting before →
    u.tracker.busy = none → ∀ ticket scope waiting,
      u.tracker.waiting = (ticket, .refetch scope) :: waiting → Punctual source ticket scope u.now u after
  /-- If its scope has ended by then it is answered when it is served. -/
  barred : w.tracker.busy = none → ∀ ticket scope waiting,
    w.tracker.waiting = (ticket, .refetch scope) :: waiting → w.HasEnded scope →
      Over ticket w.now (w.apply source .grant)
  /-- If the scope of its fetch ends later, one more step of the fetch, which may be its
  first, and the tracker's next look at it are enough. -/
  stops : ∀ b, w.tracker.busy = some b → w.HasEnded b.scope →
    Over b.ticket w.now ((w.apply source .fetch).apply source .conclude)
  /-- While a caller waits, time passes only as long as the refetch of somebody who came
  before has the tracker, and not beyond its deadline. -/
  behind : ∀ ticket request, (ticket, request) ∈ w.tracker.waiting → ∀ instant, w.MayPass source instant →
    ∃ b, w.tracker.busy = some b ∧ b.ticket < ticket ∧ ¬ w.HasEnded b.scope ∧
      ∀ due, b.scope.deadline = some due → instant ≤ Instant.tick due

/-- **Refetches end with their scopes, once it is their turn.** It holds of all runs in
which time passes only when nothing is left to be done. -/
theorem play_bounded (keeps : source.KeepsCancelled) {pacing : Pacing} {setting : Setting S}
    {events : List (Event S)} (prompt : (World.initial pacing setting).Prompt source events) :
    Bounded source pacing setting events (World.play source pacing setting events) where
  made := by
    rintro before scope after u rfl rfl turn turns
    have coming := (Leased.play source pacing setting before).coming source scope (by rwa [pacing_play])
    exact coming.punctual (Pacing.le_turns turns) keeps (World.prompt_append.1 prompt).2.2
  first := by
    rintro before after u rfl rfl idle ticket scope waiting first
    have coming : Coming ticket scope _ _ := .attended (Nat.le_refl _) (.first idle first rfl)
    exact coming.punctual (Nat.le_refl _) keeps (World.prompt_append.1 prompt).2
  barred idle ticket scope waiting first ended := World.grant_over source idle first ended
  stops b busy ended := by
    obtain ⟨b', busy', ticket, scope, begun⟩ := World.fetch_begun source busy
    have still := ended.apply (e := .fetch) keeps trivial
    rw [← scope] at still
    have now : ((World.play source pacing setting events).apply source .fetch).now = _ := World.now_put _ _
    rw [← ticket, ← now]
    exact World.conclude_over source busy' begun still
  behind ticket request waits instant may := by
    obtain ⟨b, busy⟩ := may.busy (List.ne_nil_of_mem waits)
    have apart := Apart.play source pacing setting events
    have ahead : b ∈ (World.play source pacing setting events).tracker.fetching := by
      rw [Tracker.fetching_of_busy busy]
      exact List.mem_append_right _ (List.mem_singleton_self b)
    refine ⟨b, busy, apart.lt_waiting ahead waits, ?_, fun due hd => may.le_tick busy hd⟩
    rw [World.HasEnded, may.going busy]
    exact nofun

/-- A fetch that takes 100 ms, whatever becomes of its scope. -/
def slow : Operation Unit Unit (Scope × Activity Record) Record :=
  .scripted (fun _ _ => .sleep 100000000 (.finish (.value ⟨5, 1⟩))) (fun _ _ s => s) (fun _ s => s)

/-- At most one refetch a minute, of at most a second. -/
def Pacing.sparse : Pacing := ⟨60000000000, 1000000000, by decide⟩

/-- A second caller with a deadline of 10 ms comes while the first one's fetch runs, and
waits for it. -/
def queued : List (Event Unit) :=
  [.request (.refetch ⟨⟨0, []⟩, none⟩), .grant, .fetch, .request (.refetch ⟨⟨1, []⟩, some 10000000⟩),
    .pass 10000000, .pass 90000000, .fetch, .conclude, .grant, .pass 50000000]

theorem queued_prompt : (World.initial .sparse ⟨⟨2, []⟩, [], ()⟩).Prompt slow queued := by
  refine ⟨trivial, trivial, trivial, trivial, ?_, ?_, trivial, trivial, trivial, ?_, trivial⟩ <;>
    exact ⟨rfl, rfl, rfl, by decide +kernel⟩

/-- The second caller has its turn when the first one's fetch has ended, and then waits no more. -/
theorem queued_bounded :
    let w := World.play slow .sparse ⟨⟨2, []⟩, [], ()⟩ queued
    w.now = 150000000 ∧ ReturnsBy 1 100000000 w := by
  have bounded := play_bounded (Operation.scripted_keepsCancelled _ _ _) queued_prompt
  exact ⟨rfl, (bounded.first (queued.take 8) (queued.drop 8) _ rfl rfl rfl 1 _ _ rfl).deadline 10000000 rfl⟩

/-- But it waits beyond its deadline: it is answered at 100 ms, and then it is refused for
coming too soon after the first one. -/
theorem queued_late :
    let w := World.play slow .sparse ⟨⟨2, []⟩, [], ()⟩ queued
    (World.initial .sparse ⟨⟨2, []⟩, [], ()⟩).Prompt slow queued ∧
      queued[3]? = some (.request (.refetch ⟨⟨1, []⟩, some 10000000⟩)) ∧
      ¬ ReturnsBy 1 (Instant.tick 10000000) w ∧ 1 ∉ w.gone ∧
      w.tracker.replies.map (fun r => (r.ticket, r.time)) = [(1, 100000000), (0, 100000000)] := by
  intro w
  refine ⟨queued_prompt, rfl, ?_, by decide +kernel, by decide +kernel⟩
  unfold ReturnsBy Over
  decide +kernel

end CallGuard.Sequence
