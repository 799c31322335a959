/-
What an event does to a tracker, case by case (`Moved`): it serves whoever is first in
line (`Granted`), it ends the refetch under way (`Concluded`), or a fetch goes on. From
the cases follows which events change what the tracker keeps (`Stock`).
-/
import CallGuard.Proofs.Sequence.Steps
import CallGuard.Proofs.Sequence.World

namespace CallGuard.Sequence

variable {S σ : Type}

/-- What a tracker keeps from one request to the next. -/
structure Stock where
  record : Record
  refetchedAt : Option Nat
  untouched : Bool

namespace Tracker

/-- What a tracker keeps. -/
def stock (t : Tracker σ) : Stock := ⟨t.record, t.refetchedAt, t.untouched⟩

/-- All refetches whose fetches may go on: those left behind, and the one under way. -/
def fetching (t : Tracker σ) : List (Refetch σ) := t.strays ++ t.busy.toList

/-- The caller with a ticket has the tracker for its refetch. -/
def Serves (t : Tracker σ) (ticket : Nat) : Prop := t.busy.map (·.ticket) = some ticket

/-- Whoever is first in line is served: that leads from `t` and `w` to the last two
arguments. -/
inductive Granted (now : Nat) (t : Tracker σ) (w : Setting S) : Tracker σ → Setting S → Prop
  /-- A request that is no refetch is answered. -/
  | answered {ticket request waiting record untouched answer w'} : t.busy = none →
      t.waiting = (ticket, request) :: waiting → (∀ scope, request ≠ .refetch scope) →
      (∀ r, answer ≠ .refetched r) → (∀ time, answer = .time time → time = t.refetchedAt) →
      (record = t.record ∧ untouched = t.untouched ∨ request = .next ∨ ∃ n, request = .overwrite n) →
      Granted now t w
        ({ t with waiting := waiting, record := record, untouched := untouched }.reply ticket now answer) w'
  | throttled {ticket scope waiting elapsed} : t.busy = none →
      t.waiting = (ticket, .refetch scope) :: waiting → t.tooSoon? now = some elapsed →
      Granted now t w
        ({ t with waiting := waiting }.reply ticket now
          (.refetched (.error (.throttled elapsed t.pacing.interval))))
        (w.log (.refetchThrottled elapsed t.pacing.interval))
  /-- The scope of a refetch has ended before its fetch. -/
  | barred {ticket scope waiting reason w'} : t.busy = none →
      t.waiting = (ticket, .refetch scope) :: waiting → t.tooSoon? now = none →
      Granted now t w
        ({ t with waiting := waiting, busy := none }.reply ticket now
          (.refetched (.error (.fetchEnded reason)))) w'
  /-- A refetch gets its fetch, and keeps the tracker busy. -/
  | letIn {ticket scope waiting own w'} : t.busy = none →
      t.waiting = (ticket, .refetch scope) :: waiting → t.tooSoon? now = none →
      Granted now t w { t with waiting := waiting, busy := some ⟨ticket, own, .due⟩ } w'

/-- The refetch under way ends: that leads from `t` to the last argument. -/
inductive Concluded (now : Nat) (t : Tracker σ) : Tracker σ → Prop
  /-- Its fetch came to a record. -/
  | refreshed {b record} : t.busy = some b → b.fetch = .ended (.value record) →
      Concluded now t
        ({ t with busy := none, record := record, refetchedAt := some now }.reply b.ticket now
          (.refetched (.ok record)))
  /-- Its fetch came to something else, or its scope has ended. -/
  | failed {b f} : t.busy = some b → f.throttle? = none →
      Concluded now t ({ t with busy := none }.reply b.ticket now (.refetched (.error f)))

variable {source : Operation S Unit σ Record} {now : Nat} {t t' : Tracker σ} {w w' : Setting S}

theorem Granted.of_grant? (h : t.grant? now w = some (t', w')) : Granted now t w t' w' := by
  unfold grant? at h
  split at h
  · rename_i ticket request waiting idle first
    cases request with
    | next =>
      cases h
      exact .answered idle first nofun nofun nofun (.inr (.inl rfl))
    | current =>
      cases h
      exact .answered idle first nofun nofun nofun (.inl ⟨rfl, rfl⟩)
    | lastRefetch =>
      cases h
      refine .answered idle first nofun nofun (fun time ht => ?_) (.inl ⟨rfl, rfl⟩)
      cases ht
      rfl
    | overwrite sequence =>
      cases h
      exact .answered idle first nofun nofun nofun (.inr (.inr ⟨sequence, rfl⟩))
    | refetch scope =>
      simp only [serve, beginRefetch] at h
      split at h
      · rename_i elapsed soon
        cases h
        exact .throttled idle first soon
      · rename_i soon
        split at h
        · cases h
          exact .barred idle first soon
        · cases h
          exact .letIn idle first soon
  · cases h

/-- Whoever is first leaves the line, with an answer or with the tracker. -/
theorem Granted.first (h : Granted now t w t' w') : ∃ p, t.waiting = p :: t'.waiting ∧
    t'.tickets = t.tickets ∧
    (t'.Serves p.1 ∨ ∃ answer, t'.replies = ⟨p.1, now, answer⟩ :: t.replies) := by
  cases h with
  | answered _ first _ _ _ _ | throttled _ first _ | barred _ first _ =>
    exact ⟨_, first, rfl, .inr ⟨_, rfl⟩⟩
  | letIn _ first _ => exact ⟨_, first, rfl, .inl rfl⟩

theorem Concluded.of_conclude? (h : t.conclude? source now w = some (t', w')) : Concluded now t t' := by
  unfold conclude? at h
  obtain ⟨b, busy, h⟩ := Option.bind_eq_some_iff.1 h
  split at h
  · cases h
  · cases h
    exact .failed busy rfl
  · cases h
    exact .failed busy rfl
  · cases h
  · rename_i outcome hf _
    cases outcome with
    | value record =>
      cases h
      exact .refreshed busy hf
    | failure f =>
      cases h
      exact .failed busy rfl
    | panic message =>
      cases h
      exact .failed busy rfl

theorem Advanced.pacing (h : Advanced t t') : t'.pacing = t.pacing := by
  cases h <;> rfl

theorem Advanced.fetching (h : Advanced t t') : ∃ front b b' rest, t.fetching = front ++ b :: rest ∧
    t'.fetching = front ++ b' :: rest ∧ Stepped b b' := by
  cases h with
  | @ran b b' started busy hs =>
    refine ⟨t.strays, b, b', [], ?_, rfl, hs⟩
    rw [Tracker.fetching, busy, Option.toList_some]
  | @strayed front b b' rest started he hs =>
    refine ⟨front, b, b', rest ++ t.busy.toList, ?_, ?_, hs⟩
    · rw [Tracker.fetching, he, List.append_assoc, List.cons_append]
    · rw [Tracker.fetching, List.append_assoc, List.cons_append]

/-! ## What changes what the tracker keeps -/

/-- A fetch changes nothing that the tracker keeps, nor anybody's place or answer. -/
theorem Advanced.kept (h : Advanced t t') : t'.stock = t.stock ∧ t'.replies = t.replies ∧
    t'.waiting = t.waiting ∧ t'.tickets = t.tickets ∧ t'.busy.map (·.ticket) = t.busy.map (·.ticket) := by
  cases h with
  | ran busy hs =>
    refine ⟨rfl, rfl, rfl, rfl, ?_⟩
    rw [busy, Option.map_some, Option.map_some, hs.ticket]
  | strayed _ _ => exact ⟨rfl, rfl, rfl, rfl, rfl⟩

theorem abandon_kept (t : Tracker σ) (ticket : Nat) : (t.abandon ticket).stock = t.stock ∧
    (t.abandon ticket).replies = t.replies ∧ (t.abandon ticket).pacing = t.pacing ∧
    (t.abandon ticket).tickets = t.tickets ∧
    (t.abandon ticket).waiting = t.waiting.filter (·.1 != ticket) := by
  obtain ⟨busy, strays, he, -⟩ := t.abandon_cases ticket
  rw [he]
  exact ⟨rfl, rfl, rfl, rfl, rfl⟩

theorem abandon_of_not_serves {ticket : Nat} (h : ¬ t.Serves ticket) :
    t.abandon ticket = { t with waiting := t.waiting.filter (·.1 != ticket) } := by
  unfold abandon
  dsimp only
  split
  · rename_i b busy
    rw [if_neg]
    intro own
    exact h (by rw [Serves, busy, Option.map_some, own])
  · rfl

theorem abandon_of_busy {b : Refetch σ} (busy : t.busy = some b) : t.abandon b.ticket =
    { t with
      waiting := t.waiting.filter (·.1 != b.ticket), busy := none, strays := t.strays ++ [b] } := by
  simp only [abandon, busy, if_true]

end Tracker

/-- What comes of an event, by what the tracker does. -/
inductive Moved (w : World S σ) : Event S → World S σ → Prop
  /-- The event is impossible: nobody can be served, no fetch can go on, or no refetch
  is over. -/
  | nothing {e} : e = .grant ∨ e = .fetch ∨ e = .conclude → Moved w e w
  | asked (r : Request) : Moved w (.request r)
      { w with tracker := (w.tracker.request r).2, asked := w.asked ++ [r] }
  | granted {t setting} : Tracker.Granted w.now w.tracker w.setting t setting →
      Moved w .grant { w with tracker := t, setting := setting }
  | advanced {t setting} : Tracker.Advanced w.tracker t →
      Moved w .fetch { w with tracker := t, setting := setting }
  | concluded {t setting} : Tracker.Concluded w.now w.tracker t →
      Moved w .conclude { w with tracker := t, setting := setting }
  | left (ticket : Nat) : Moved w (.abandon ticket)
      { w with tracker := w.tracker.abandon ticket, gone := ticket :: w.gone }
  | passed (d : Nat) : Moved w (.pass d) { w with now := w.now + d }
  | around (setting : Setting S) : Moved w (.around setting) { w with setting := setting }

theorem Moved.of_apply (source : Operation S Unit σ Record) (w : World S σ) (e : Event S) :
    Moved w e (w.apply source e) := by
  cases e with
  | request r => exact .asked r
  | abandon ticket => exact .left ticket
  | pass d => exact .passed d
  | around setting => exact .around setting
  | grant =>
    simp only [World.apply]
    cases h : w.tracker.grant? w.now w.setting with
    | none => exact .nothing (.inl rfl)
    | some next => exact .granted (.of_grant? h)
  | fetch =>
    simp only [World.apply]
    cases h : w.tracker.fetchStep? source w.now w.setting with
    | none => exact .nothing (.inr (.inl rfl))
    | some next => exact .advanced (.of_fetchStep? h)
  | conclude =>
    simp only [World.apply]
    cases h : w.tracker.conclude? source w.now w.setting with
    | none => exact .nothing (.inr (.inr rfl))
    | some next => exact .concluded (.of_conclude? h)

theorem World.apply_grant (source : Operation S Unit σ Record) {w : World S σ} {ticket : Nat}
    {request : Request} {waiting : List (Nat × Request)} (idle : w.tracker.busy = none)
    (first : w.tracker.waiting = (ticket, request) :: waiting) :
    ∃ t setting, Tracker.Granted w.now w.tracker w.setting t setting ∧
      w.apply source .grant = { w with tracker := t, setting := setting } := by
  have served : w.tracker.grant? w.now w.setting =
      some ({ w.tracker with waiting := waiting }.serve ticket w.now w.setting request) := by
    simp only [Tracker.grant?, idle, first]
  refine ⟨_, _, .of_grant? served, ?_⟩
  simp only [World.apply, served]
  rfl

/-- At most one caller is answered, and then at once. -/
theorem Moved.replies {w w' : World S σ} {e : Event S} (m : Moved w e w') : w.now ≤ w'.now ∧
    (w'.tracker.replies = w.tracker.replies ∨
      ∃ reply, w'.tracker.replies = reply :: w.tracker.replies ∧ reply.time = w.now) := by
  cases m with
  | nothing _ | asked r | around setting => exact ⟨Nat.le_refl _, .inl rfl⟩
  | passed d => exact ⟨Nat.le_add_right _ _, .inl rfl⟩
  | left ticket => exact ⟨Nat.le_refl _, .inl (w.tracker.abandon_kept ticket).2.1⟩
  | advanced ha => exact ⟨Nat.le_refl _, .inl ha.kept.2.1⟩
  | granted hg =>
    refine ⟨Nat.le_refl _, ?_⟩
    cases hg with
    | letIn _ _ _ => exact .inl rfl
    | answered _ _ _ _ _ _ | throttled _ _ _ | barred _ _ _ => exact .inr ⟨_, rfl, rfl⟩
  | concluded hc =>
    refine ⟨Nat.le_refl _, ?_⟩
    cases hc with
    | refreshed _ _ | failed _ _ => exact .inr ⟨_, rfl, rfl⟩

theorem Moved.pacing {w w' : World S σ} {e : Event S} (m : Moved w e w') :
    w'.tracker.pacing = w.tracker.pacing := by
  cases m with
  | nothing _ | asked r | around setting | passed d => rfl
  | granted hg => cases hg <;> rfl
  | concluded hc => cases hc <;> rfl
  | advanced ha => exact ha.pacing
  | left ticket => exact (w.tracker.abandon_kept ticket).2.2.1

theorem pacing_play (source : Operation S Unit σ Record) (pacing : Pacing) (setting : Setting S)
    (events : List (Event S)) : (World.play source pacing setting events).tracker.pacing = pacing := by
  induction events using List.reverseRecOn with
  | nil => rfl
  | append_singleton events e ih =>
    rw [World.play_concat]
    exact (Moved.of_apply source _ e).pacing.trans ih

/-- Nobody gets into the line but who makes a request. -/
theorem Moved.waiting {w w' : World S σ} {e : Event S} (m : Moved w e w') :
    w.tracker.tickets ≤ w'.tracker.tickets ∧ ∀ p ∈ w'.tracker.waiting, p ∈ w.tracker.waiting ∨
      p.1 = w.tracker.tickets ∧ w.tracker.tickets < w'.tracker.tickets := by
  cases m with
  | nothing _ | around setting | passed d => exact ⟨Nat.le_refl _, fun p hp => .inl hp⟩
  | asked r =>
    refine ⟨Nat.le_succ _, fun p hp => ?_⟩
    rcases List.mem_append.1 hp with hp | hp
    · exact .inl hp
    · rw [List.mem_singleton.1 hp]
      exact .inr ⟨rfl, Nat.lt_succ_self _⟩
  | granted hg =>
    obtain ⟨p, first, tickets, -⟩ := hg.first
    refine ⟨Nat.le_of_eq tickets.symm, fun q hq => .inl ?_⟩
    rw [first]
    exact List.mem_cons_of_mem _ hq
  | concluded hc => cases hc <;> exact ⟨Nat.le_refl _, fun p hp => .inl hp⟩
  | advanced ha =>
    obtain ⟨-, -, waiting, tickets, -⟩ := ha.kept
    exact ⟨Nat.le_of_eq tickets.symm, fun p hp => .inl (waiting ▸ hp)⟩
  | left ticket =>
    obtain ⟨-, -, -, tickets, waiting⟩ := w.tracker.abandon_kept ticket
    refine ⟨Nat.le_of_eq tickets.symm, fun p hp => .inl ?_⟩
    rw [waiting] at hp
    exact (List.mem_filter.1 hp).1

end CallGuard.Sequence
