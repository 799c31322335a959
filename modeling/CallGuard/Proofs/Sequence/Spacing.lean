/-
How far apart refetches succeed: a refetch is refused for coming too soon if and only
if it is served within the interval after the latest success, so that two successes
are always more than the interval apart, whoever asks and however the callers and
their fetches interleave.
-/
import CallGuard.Proofs.Sequence.Law
import CallGuard.Proofs.Sequence.Sights

namespace CallGuard.Sequence

variable {S σ : Type}

/-- When a refetch succeeded, if the answer is that of one. -/
def Reply.success? (r : Reply) : Option Nat :=
  match r.answer with
  | .refetched (.ok _) => some r.time
  | _ => none

/-- When refetches succeeded, the latest first. -/
def successes (replies : List Reply) : List Nat := replies.filterMap (·.success?)

/-- How long before the last refetch succeeded, for a refetch that was refused for
coming too soon, and how long it should have been. -/
def Answer.throttle? : Answer → Option (Nat × Nat)
  | .refetched (.error f) => f.throttle?
  | _ => none

theorem Answer.throttle?_eq_some {a : Answer} {elapsed interval : Nat} :
    a.throttle? = some (elapsed, interval) ↔ a = .refetched (.error (.throttled elapsed interval)) := by
  constructor
  · intro h
    unfold throttle? at h
    split at h
    · rename_i f
      unfold Failure.throttle? at h
      split at h
      · cases h
        rfl
      · cases h
    · cases h
  · rintro rfl
    rfl

theorem successes_cons_of_none {r : Reply} (h : r.success? = none) (replies : List Reply) :
    successes (r :: replies) = successes replies := List.filterMap_cons_none h

theorem mem_successes {replies : List Reply} {time : Nat} :
    time ∈ successes replies ↔ ∃ r ∈ replies, r.success? = some time := List.mem_filterMap

theorem Reply.time_of_success? {r : Reply} {time : Nat} (h : r.success? = some time) : r.time = time := by
  unfold success? at h
  split at h
  · exact Option.some.inj h
  · cases h

/-! ## Answers, one after the other -/

/-- Answers are given one after the other, up to now. -/
structure Timed (w : World S σ) : Prop where
  past : ∀ r ∈ w.tracker.replies, r.time ≤ w.now
  descending : w.tracker.replies.Pairwise fun later earlier => earlier.time ≤ later.time

namespace Timed

variable {w w' : World S σ} {e : Event S}

theorem moved (h : Timed w) (m : Moved w e w') : Timed w' := by
  obtain ⟨now, same | ⟨reply, more, time⟩⟩ := m.replies
  · refine ⟨fun r hr => Nat.le_trans (h.past r (same ▸ hr)) now, ?_⟩
    rw [same]
    exact h.descending
  · refine ⟨fun r hr => ?_, ?_⟩
    · rw [more] at hr
      rcases List.mem_cons.1 hr with rfl | hr
      · exact Nat.le_trans (Nat.le_of_eq time) now
      · exact Nat.le_trans (h.past r hr) now
    · rw [more]
      exact List.pairwise_cons.2 ⟨fun r hr => time ▸ h.past r hr, h.descending⟩

theorem play (source : Operation S Unit σ Record) (pacing : Pacing) (setting : Setting S)
    (events : List (Event S)) : Timed (World.play source pacing setting events) := by
  induction events using List.reverseRecOn with
  | nil => exact ⟨nofun, .nil⟩
  | append_singleton events e ih =>
    rw [World.play_concat]
    exact ih.moved (.of_apply source _ e)

end Timed

theorem time_le_of_ticket_lt {replies : List Reply}
    (h : replies.Pairwise fun later earlier => earlier.ticket < later.ticket ∧ earlier.time ≤ later.time)
    {r r' : Reply} (hr : r ∈ replies) (hr' : r' ∈ replies) (order : r'.ticket < r.ticket) :
    r'.time ≤ r.time := by
  induction h with
  | nil => cases hr
  | @cons first rest behind _ ih =>
    rcases List.mem_cons.1 hr with rfl | later
    · rcases List.mem_cons.1 hr' with rfl | earlier
      · exact Nat.le_refl _
      · exact (behind r' earlier).2
    · rcases List.mem_cons.1 hr' with rfl | earlier
      · have := (behind r later).1
        omega
      · exact ih later earlier

/-! ## Successes, far apart -/

/-- Refetches of a tracker succeed far apart, and so do fetches begin after them. -/
structure Paced (w : World S σ) (seen : List Sight) : Prop where
  latest : w.tracker.refetchedAt = (successes w.tracker.replies).head?
  told : ∀ r older, r :: older <:+ w.tracker.replies → ∀ time, r.answer = .time time →
    time = (successes older).head?
  spaced : (successes w.tracker.replies).Pairwise fun later earlier =>
    earlier + w.tracker.pacing.interval < later
  /-- Whoever has a fetch got it long after every success of somebody before. -/
  letIn : ∀ b ∈ w.tracker.fetching, ∀ r ∈ w.tracker.replies, ∀ time, r.success? = some time →
    r.ticket < b.ticket → time + w.tracker.pacing.interval < w.now
  sighted : ∀ s ∈ seen, ∀ r ∈ w.tracker.replies, ∀ time, r.success? = some time →
    r.ticket < s.ticket → time + w.tracker.pacing.interval < s.time

namespace Paced

variable {w w' : World S σ} {e : Event S} {seen : List Sight}

theorem initial (pacing : Pacing) (setting : Setting S) :
    Paced (World.initial pacing setting : World S σ) [] where
  latest := rfl
  told _ _ hs := nomatch List.suffix_nil.1 hs
  spaced := .nil
  letIn := nofun
  sighted := nofun

theorem later (h : Paced w seen) (now : w.now ≤ w'.now) (pacing : w'.tracker.pacing = w.tracker.pacing)
    (refetchedAt : w'.tracker.refetchedAt = w.tracker.refetchedAt)
    (replies : w'.tracker.replies = w.tracker.replies)
    (fetching : w'.tracker.fetching = w.tracker.fetching) : Paced w' seen := by
  refine ⟨?_, ?_, ?_, ?_, ?_⟩
  · rw [refetchedAt, replies]
    exact h.latest
  · rw [replies]
    exact h.told
  · rw [replies, pacing]
    exact h.spaced
  · rw [replies, pacing, fetching]
    exact fun b hb r hr time hs order => Nat.lt_of_lt_of_le (h.letIn b hb r hr time hs order) now
  · rw [replies, pacing]
    exact h.sighted

theorem unsuccessful (h : Paced w seen) {reply : Reply} (now : w'.now = w.now)
    (pacing : w'.tracker.pacing = w.tracker.pacing)
    (refetchedAt : w'.tracker.refetchedAt = w.tracker.refetchedAt)
    (replies : w'.tracker.replies = reply :: w.tracker.replies) (none : reply.success? = none)
    (told : ∀ time, reply.answer = .time time → time = w.tracker.refetchedAt)
    (fetching : ∀ b ∈ w'.tracker.fetching, b ∈ w.tracker.fetching) : Paced w' seen := by
  have old {r : Reply} {time : Nat} (hr : r ∈ w'.tracker.replies) (hs : r.success? = some time) :
      r ∈ w.tracker.replies := by
    rw [replies] at hr
    rcases List.mem_cons.1 hr with rfl | hr
    · rw [none] at hs
      cases hs
    · exact hr
  refine ⟨?_, fun r older hs time ht => ?_, ?_, fun b hb r hr time hs order => ?_,
    fun s hsight r hr time hs order => ?_⟩
  · rw [refetchedAt, replies, successes_cons_of_none none]
    exact h.latest
  · rw [replies] at hs
    rcases List.suffix_cons_iff.1 hs with he | hs
    · cases he
      rw [told time ht]
      exact h.latest
    · exact h.told r older hs time ht
  · rw [replies, pacing, successes_cons_of_none none]
    exact h.spaced
  · rw [pacing, now]
    exact h.letIn b (fetching b hb) r (old hr hs) time hs order
  · rw [pacing]
    exact h.sighted s hsight r (old hr hs) time hs order

/-- All successes are long past if the latest is. -/
theorem spaced_of_tooSoon? (h : Paced w seen) (soon : w.tracker.tooSoon? w.now = none) {time : Nat}
    (hs : time ∈ successes w.tracker.replies) : time + w.tracker.pacing.interval < w.now := by
  have latest := h.latest
  have spaced := h.spaced
  cases he : successes w.tracker.replies with
  | nil =>
    rw [he] at hs
    cases hs
  | cons last older =>
    rw [he] at latest hs spaced
    have bound : last + w.tracker.pacing.interval < w.now := by
      simp only [Tracker.tooSoon?, latest, List.head?_cons, Option.bind_some] at soon
      split at soon
      · cases soon
      · omega
    rcases List.mem_cons.1 hs with rfl | hs
    · exact bound
    · have := (List.pairwise_cons.1 spaced).1 time hs
      omega

theorem granted (h : Paced w seen) {t : Tracker σ} {setting : Setting S}
    (hg : Tracker.Granted w.now w.tracker w.setting t setting) :
    Paced { w with tracker := t, setting := setting } seen := by
  cases hg with
  | @answered ticket _ _ _ _ answer _ _ _ _ other told _ =>
    have none : (⟨ticket, w.now, answer⟩ : Reply).success? = none := by
      unfold Reply.success?
      split
      · exact absurd ‹_› (other _)
      · rfl
    exact h.unsuccessful rfl rfl rfl rfl none told fun b hb => hb
  | throttled _ _ _ => exact h.unsuccessful rfl rfl rfl rfl rfl nofun fun b hb => hb
  | barred idle _ _ =>
    refine h.unsuccessful rfl rfl rfl rfl rfl nofun fun b hb => ?_
    rw [Tracker.fetching_of_idle rfl] at hb
    rw [Tracker.fetching_of_idle idle]
    exact hb
  | letIn idle _ soon =>
    refine ⟨h.latest, h.told, h.spaced, fun b hb r hr time hs order => ?_, h.sighted⟩
    exact h.spaced_of_tooSoon? soon (mem_successes.2 ⟨r, hr, hs⟩)

theorem concluded (h : Paced w seen) (line : InLine w) (apart : Apart w) (watched : Watched w seen)
    {t : Tracker σ} {setting : Setting S} (hc : Tracker.Concluded w.now w.tracker t) :
    Paced { w with tracker := t, setting := setting } seen := by
  cases hc with
  | failed busy _ =>
    refine h.unsuccessful rfl rfl rfl rfl rfl nofun fun b hb => ?_
    rw [Tracker.fetching_of_idle rfl] at hb
    exact List.mem_append_left _ hb
  | @refreshed b record busy _ =>
    have mine : b ∈ w.tracker.fetching := by
      rw [Tracker.fetching_of_busy busy]
      exact List.mem_append_right _ List.mem_cons_self
    have behind (r : Reply) (hr : r ∈ w.tracker.replies) : r.ticket < b.ticket :=
      Tracker.served_lt_busy line.ordered busy hr
    -- All others whose fetches may go on came before.
    have before (c : Refetch σ) (hc : c ∈ w.tracker.strays) : c.ticket < b.ticket := by
      have ordered := (List.pairwise_append.1 apart.ordered).1
      rw [Tracker.fetching_of_busy busy, List.map_append, List.pairwise_append] at ordered
      exact ordered.2.2 c.ticket (List.mem_map_of_mem hc) b.ticket (List.mem_singleton_self _)
    refine ⟨rfl, fun r older hs time ht => ?_, List.pairwise_cons.2 ⟨fun time hs => ?_, h.spaced⟩,
      fun c hc r hr time hs order => ?_, fun s hsight r hr time hs order => ?_⟩
    · rcases List.suffix_cons_iff.1 hs with he | hs
      · cases he
        cases ht
      · exact h.told r older hs time ht
    · obtain ⟨r, hr, hs⟩ := mem_successes.1 hs
      exact h.letIn b mine r hr time hs (behind r hr)
    · rw [Tracker.fetching_of_idle rfl] at hc
      have := before c hc
      rcases List.mem_cons.1 hr with rfl | hr
      · simp only at order
        omega
      · exact h.letIn c (List.mem_append_left _ hc) r hr time hs order
    · rcases List.mem_cons.1 hr with rfl | hr
      · simp only at order
        rcases watched.placed s hsight with ⟨c, hc, same⟩ | ⟨r, hr, same⟩
        · rw [Tracker.fetching_of_busy busy] at hc
          rcases List.mem_append.1 hc with hc | hc
          · have := before c hc
            omega
          · rw [List.mem_singleton.1 hc] at same
            omega
        · have := behind r hr
          omega
      · exact h.sighted s hsight r hr time hs order

theorem advanced (h : Paced w seen) {t : Tracker σ} {setting : Setting S}
    (ha : Tracker.Advanced w.tracker t) :
    Paced { w with tracker := t, setting := setting }
      (w.sighted { w with tracker := t, setting := setting } .fetch ++ seen) := by
  have pacing := ha.pacing
  obtain ⟨stock, replies, -, -, -⟩ := ha.kept
  obtain ⟨front, b, b', rest, old, new, hs⟩ := ha.fetching
  have mine : b ∈ w.tracker.fetching := old ▸ List.mem_append_right _ List.mem_cons_self
  have tickets : t.fetching.map (·.ticket) = w.tracker.fetching.map (·.ticket) := by
    rw [old, new, List.map_append, List.map_append, List.map_cons, List.map_cons, hs.ticket]
  rw [w.sighted_fetch old new]
  refine ⟨?_, ?_, ?_, fun c hc r hr time hs order => ?_, fun s hsight r hr time hs order => ?_⟩
  · show t.refetchedAt = (successes t.replies).head?
    rw [replies, ← h.latest]
    exact congrArg Stock.refetchedAt stock
  · rw [replies]
    exact h.told
  · rw [replies, pacing]
    exact h.spaced
  · rw [replies] at hr
    rw [pacing]
    obtain ⟨c', hc', same⟩ := List.mem_map.1 (tickets ▸ List.mem_map_of_mem hc)
    exact h.letIn c' hc' r hr time hs (same ▸ order)
  · rw [replies] at hr
    rw [pacing]
    rcases List.mem_append.1 hsight with hsight | hsight
    · obtain ⟨own, now⟩ := Refetch.of_mem_sights hsight
      rw [now]
      exact h.letIn b mine r hr time hs (own ▸ order)
    · exact h.sighted s hsight r hr time hs order

theorem moved (h : Paced w seen) (line : InLine w) (apart : Apart w) (watched : Watched w seen)
    (m : Moved w e w') : Paced w' (w.sighted w' e ++ seen) := by
  have pacing := m.pacing
  cases m with
  | nothing he =>
    rw [World.sighted_self he]
    exact h
  | asked r | around setting => exact h.later (Nat.le_refl _) rfl rfl rfl rfl
  | passed d => exact h.later (Nat.le_add_right _ _) rfl rfl rfl rfl
  | granted hg => exact h.granted hg
  | advanced ha => exact h.advanced ha
  | concluded hc => exact h.concluded line apart watched hc
  | left ticket =>
    obtain ⟨stock, replies, -⟩ := w.tracker.abandon_kept ticket
    exact h.later (Nat.le_refl _) pacing (congrArg Stock.refetchedAt stock) replies
      (w.tracker.fetching_abandon ticket)

theorem play (source : Operation S Unit σ Record) (pacing : Pacing) (setting : Setting S)
    (events : List (Event S)) :
    Paced (World.play source pacing setting events) (World.sights source pacing setting events) := by
  induction events using List.reverseRecOn with
  | nil => exact .initial pacing setting
  | append_singleton events e ih =>
    have watched := Watched.play source pacing setting events
    rw [World.sights_concat, World.play_concat]
    exact ih.moved (steady_play source pacing setting events).line (.play source pacing setting events)
      watched (.of_apply source _ e)

end Paced

/-! ## Refusals -/

/-- The caller with a ticket was served, and is refused for coming too soon if that is
expected. -/
structure Denied (ticket : Nat) (expected : Option (Nat × Nat)) (w : World S σ) : Prop where
  beyond : Beyond ticket w
  answered : ∀ throttle, expected = some throttle →
    ∃ r ∈ w.tracker.replies, r.ticket = ticket ∧ r.answer.throttle? = some throttle
  only : ∀ r ∈ w.tracker.replies, r.ticket = ticket → r.answer.throttle? = expected

namespace Denied

variable {w w' : World S σ} {e : Event S} {ticket : Nat} {expected : Option (Nat × Nat)}

theorem replied (h : Denied ticket expected w) (beyond : Beyond ticket w') {reply : Reply}
    (replies : w'.tracker.replies = reply :: w.tracker.replies)
    (own : reply.ticket = ticket → reply.answer.throttle? = expected) : Denied ticket expected w' where
  beyond := beyond
  answered throttle he := by
    obtain ⟨r, hr, same, told⟩ := h.answered throttle he
    rw [replies]
    exact ⟨r, List.mem_cons_of_mem _ hr, same, told⟩
  only r hr same := by
    rw [replies] at hr
    rcases List.mem_cons.1 hr with rfl | hr
    · exact own same
    · exact h.only r hr same

theorem moved (h : Denied ticket expected w) (apart : Apart w) (m : Moved w e w') :
    Denied ticket expected w' := by
  have beyond := h.beyond.moved m
  have other {ticket' request waiting} (first : w.tracker.waiting = (ticket', request) :: waiting) :
      ticket' ≠ ticket :=
    Nat.ne_of_gt (h.beyond.waiting (ticket', request) (first ▸ List.mem_cons_self))
  -- One that was refused has no fetch whose end could be its answer.
  have unexpected {b} (busy : w.tracker.busy = some b) (same : b.ticket = ticket) : none = expected := by
    cases he : expected with
    | none => rfl
    | some throttle =>
      obtain ⟨r, hr, own, -⟩ := h.answered throttle he
      have mine : b ∈ w.tracker.fetching := by
        rw [Tracker.fetching_of_busy busy]
        exact List.mem_append_right _ List.mem_cons_self
      refine absurd (Tracker.mem_places_of_fetching mine) ?_
      rw [same, ← own]
      exact apart.unanswered r hr
  cases m with
  | nothing _ | asked r | passed d | around setting => exact ⟨beyond, h.answered, h.only⟩
  | granted hg =>
    cases hg with
    | answered _ first _ _ _ _ | throttled _ first _ | barred _ first _ =>
      exact h.replied beyond rfl fun same => absurd same (other first)
    | letIn _ _ _ => exact ⟨beyond, h.answered, h.only⟩
  | concluded hc =>
    cases hc with
    | refreshed busy _ => exact h.replied beyond rfl fun same => unexpected busy same
    | failed busy fair => exact h.replied beyond rfl fun same => fair.trans (unexpected busy same)
  | advanced ha =>
    have replies := ha.kept.2.1
    exact ⟨beyond, replies ▸ h.answered, replies ▸ h.only⟩
  | left ticket =>
    have replies := (w.tracker.abandon_kept ticket).2.1
    exact ⟨beyond, by rw [replies]; exact h.answered, by rw [replies]; exact h.only⟩

/-- A refetch that is served is refused if and only if it comes too soon. -/
theorem granted (apart : Apart w) {t : Tracker σ} {setting : Setting S} {scope : Scope}
    {waiting : List (Nat × Request)} (first : w.tracker.waiting = (ticket, .refetch scope) :: waiting)
    (hg : Tracker.Granted w.now w.tracker w.setting t setting) :
    Denied ticket ((w.tracker.tooSoon? w.now).map (·, w.tracker.pacing.interval))
      { w with tracker := t, setting := setting } := by
  have beyond := Beyond.granted apart first hg
  have waited : ticket ∈ w.tracker.places :=
    Tracker.mem_places_of_waiting (p := (ticket, .refetch scope)) (first ▸ List.mem_cons_self)
  have fresh (r : Reply) (hr : r ∈ w.tracker.replies) : r.ticket ≠ ticket :=
    fun same => apart.unanswered r hr (same ▸ waited)
  have only {reply : Reply} {expected} (told : reply.answer.throttle? = expected) (r : Reply)
      (hr : r ∈ reply :: w.tracker.replies) (same : r.ticket = ticket) : r.answer.throttle? = expected := by
    rcases List.mem_cons.1 hr with rfl | hr
    · exact told
    · exact absurd same (fresh r hr)
  cases hg with
  | answered _ first' other _ _ _ =>
    rw [first] at first'
    cases first'
    exact absurd rfl (other scope)
  | throttled _ first' soon =>
    rw [first] at first'
    cases first'
    rw [soon]
    refine ⟨beyond, fun throttle he => ⟨_, List.mem_cons_self, rfl, he⟩, only rfl⟩
  | barred _ _ soon =>
    rw [soon]
    exact ⟨beyond, nofun, only rfl⟩
  | letIn _ _ soon =>
    rw [soon]
    exact ⟨beyond, nofun, fun r hr same => absurd same (fresh r hr)⟩

end Denied

/-- A refetch that is let in comes long after all successes. -/
theorem Paced.spaced_of_serves {w : World S σ} {seen : List Sight} (h : Paced w seen)
    {source : Operation S Unit σ Record} {ticket : Nat} (idle : w.tracker.busy = none)
    (serves : (w.apply source .grant).tracker.Serves ticket) {time : Nat}
    (hs : time ∈ successes w.tracker.replies) : time + w.tracker.pacing.interval < w.now := by
  have m := Moved.of_apply source w .grant
  generalize w.apply source .grant = w' at m serves
  cases m with
  | nothing _ =>
    rw [Tracker.Serves, idle] at serves
    cases serves
  | granted hg =>
    cases hg with
    | letIn _ _ soon => exact h.spaced_of_tooSoon? soon hs
    | answered idle' _ _ _ _ _ | throttled idle' _ _ =>
      replace serves : w.tracker.busy.map (·.ticket) = some ticket := serves
      rw [idle] at serves
      cases serves
    | barred _ _ _ => cases serves

theorem tooSoon?_eq_some {t : Tracker σ} {now elapsed : Nat} : t.tooSoon? now = some elapsed ↔
    ∃ last, t.refetchedAt = some last ∧ now - last ≤ t.pacing.interval ∧ elapsed = now - last := by
  simp only [Tracker.tooSoon?, Option.bind_eq_some_iff, Option.ite_none_right_eq_some, Option.some.injEq]
  refine exists_congr fun last => and_congr_right fun _ => and_congr_right fun _ => eq_comm

/-- Whether a refetch is refused is decided for good when it is served. -/
theorem denied_play (source : Operation S Unit σ Record) (pacing : Pacing) (setting : Setting S)
    {before : List (Event S)} {u : World S σ} (hu : u = World.play source pacing setting before)
    (idle : u.tracker.busy = none) {ticket : Nat} {scope : Scope} {waiting : List (Nat × Request)}
    (first : u.tracker.waiting = (ticket, .refetch scope) :: waiting) (after : List (Event S)) :
    Denied ticket ((u.tracker.tooSoon? u.now).map (·, u.tracker.pacing.interval))
      (World.play source pacing setting (before ++ .grant :: after)) := by
  rw [List.append_cons]
  refine World.play_since ?_ (fun mid e ih => ih.moved (.play _ _ _ _) (.of_apply _ _ e)) after
  rw [World.play_concat, ← hu]
  obtain ⟨t, setting', granted, he⟩ := World.apply_grant source idle first
  rw [he]
  exact .granted (hu ▸ .play source pacing setting before) first granted

theorem grant_of_tooSoon (source : Operation S Unit σ Record) {w : World S σ} (idle : w.tracker.busy = none)
    {ticket elapsed : Nat} {scope : Scope} {waiting : List (Nat × Request)}
    (first : w.tracker.waiting = (ticket, .refetch scope) :: waiting)
    (soon : w.tracker.tooSoon? w.now = some elapsed) :
    w.apply source .grant =
      { w with
        setting := w.setting.log (.refetchThrottled elapsed w.tracker.pacing.interval)
        tracker := { w.tracker with waiting := waiting }.reply ticket w.now
          (.refetched (.error (.throttled elapsed w.tracker.pacing.interval))) } := by
  have still : { w.tracker with waiting := waiting, busy := none }.tooSoon? w.now = some elapsed := soon
  simp only [World.apply, Tracker.grant?, idle, first, Tracker.serve, Tracker.beginRefetch, still]
  rfl

/-- A fetch that began before somebody after its caller succeeded, is one whose caller
was answered by then, or went away. -/
theorem began_of_before {source : Operation S Unit σ Record} {pacing : Pacing} {setting : Setting S}
    {events : List (Event S)} {s : Sight} (hs : s ∈ World.sights source pacing setting events) {r : Reply}
    (hr : r ∈ (World.play source pacing setting events).tracker.replies) (order : s.ticket < r.ticket) :
    s.time ≤ r.time ∨ s.ticket ∈ (World.play source pacing setting events).gone := by
  have steady := steady_play source pacing setting events
  have watched := Watched.play source pacing setting events
  rcases watched.placed s hs with ⟨b, hb, same⟩ | ⟨r', hr', same⟩
  · rcases List.mem_append.1 hb with stray | busy
    · exact .inr (same ▸ (Apart.play source pacing setting events).gone b stray)
    · have := Tracker.served_lt_busy steady.line.ordered (Option.mem_toList.1 busy) hr
      omega
  · have past := (watched.explains r' hr').past s (mem_about.2 ⟨hs, same.symm⟩)
    have descending := (Tracker.replies_descending steady.line.ordered).and (Timed.play source pacing setting events).descending
    have := time_le_of_ticket_lt descending hr hr' (same ▸ order)
    exact .inl (Nat.le_trans past this)

/-- The law of how often the sequence number is fetched anew. Only refetches that
succeeded count: not those that failed or were abandoned, and no overwrite. -/
structure Spaced (source : Operation S Unit σ Record) (pacing : Pacing) (setting : Setting S)
    (events : List (Event S)) (w : World S σ) (seen : List Sight) : Prop where
  /-- The time of the last refetch is that of the latest success, and all who ask for
  it are told that. -/
  latest : w.tracker.refetchedAt = (successes w.tracker.replies).head?
  told : ∀ r older, r :: older <:+ w.tracker.replies → ∀ time, r.answer = .time time →
    time = (successes older).head?
  /-- A refetch that is served is refused for coming too soon, ever, if and only if it
  is served within the interval after the latest success, and is told how long after. -/
  refused : ∀ before after u, events = before ++ .grant :: after →
    u = World.play source pacing setting before → u.tracker.busy = none →
      ∀ ticket scope waiting, u.tracker.waiting = (ticket, .refetch scope) :: waiting →
        ∀ elapsed interval,
          (∃ r ∈ w.tracker.replies, r.ticket = ticket ∧
              r.answer = .refetched (.error (.throttled elapsed interval))) ↔
            ∃ last, (successes u.tracker.replies).head? = some last ∧ u.now - last ≤ pacing.interval ∧
              elapsed = u.now - last ∧ interval = pacing.interval
  /-- It is refused at once, and nothing else happens. -/
  atOnce : w.tracker.busy = none → ∀ ticket scope waiting,
    w.tracker.waiting = (ticket, .refetch scope) :: waiting →
      ∀ last, (successes w.tracker.replies).head? = some last → w.now - last ≤ pacing.interval →
        w.apply source .grant =
          { w with
            setting := w.setting.log (.refetchThrottled (w.now - last) pacing.interval)
            tracker := { w.tracker with waiting := waiting }.reply ticket w.now
              (.refetched (.error (.throttled (w.now - last) pacing.interval))) }
  /-- No fetch is ever seen for a refetch that is refused. -/
  unfetched : ∀ r ∈ w.tracker.replies, ∀ elapsed interval,
    r.answer = .refetched (.error (.throttled elapsed interval)) → about r.ticket seen = []
  /-- Any two successes are more than the interval apart. -/
  apart : (successes w.tracker.replies).Pairwise fun later earlier => earlier + pacing.interval < later
  /-- Whoever is let in for a fetch is more than the interval after every success. -/
  letIn : w.tracker.busy = none → ∀ ticket, (w.apply source .grant).tracker.Serves ticket →
    ∀ time ∈ successes w.tracker.replies, time + pacing.interval < w.now
  /-- The fetches of all who asked after one that succeeded begin more than the interval
  after that success. Those of all who asked before it have begun by then, unless their
  callers went away. -/
  fetched : ∀ r ∈ w.tracker.replies, ∀ time, r.success? = some time →
    ∀ ticket begin, .began ticket begin ∈ seen → ticket ≠ r.ticket →
      r.ticket < ticket ∧ time + pacing.interval < begin ∨
        ticket < r.ticket ∧ (begin ≤ time ∨ ticket ∈ w.gone)

/-- **Refetches keep their distance.** Whatever callers ask for and in whatever order,
and however their fetches end, a refetch succeeds only if the interval has passed since
the latest success. -/
theorem play_spaced (source : Operation S Unit σ Record) (pacing : Pacing) (setting : Setting S)
    (events : List (Event S)) :
    Spaced source pacing setting events (World.play source pacing setting events)
      (World.sights source pacing setting events) := by
  have paced := Paced.play source pacing setting events
  have watched := Watched.play source pacing setting events
  have own := pacing_play source pacing setting events
  have apart := paced.spaced
  rw [own] at apart
  refine ⟨paced.latest, paced.told, ?_, ?_, fun r hr => (watched.explains r hr).throttled, apart, ?_, ?_⟩
  · intro before after u he hu idle ticket scope waiting first elapsed interval
    have denied := denied_play source pacing setting hu idle first after
    have latest : u.tracker.refetchedAt = (successes u.tracker.replies).head? :=
      hu ▸ (Paced.play source pacing setting before).latest
    have own : u.tracker.pacing = pacing := hu ▸ pacing_play source pacing setting before
    rw [own] at denied
    have expected : (u.tracker.tooSoon? u.now).map (·, pacing.interval) = some (elapsed, interval) ↔
        ∃ last, (successes u.tracker.replies).head? = some last ∧ u.now - last ≤ pacing.interval ∧
          elapsed = u.now - last ∧ interval = pacing.interval := by
      rw [Option.map_eq_some_iff]
      constructor
      · rintro ⟨elapsed', soon, he⟩
        cases he
        obtain ⟨last, hl, within, he⟩ := tooSoon?_eq_some.1 soon
        exact ⟨last, latest ▸ hl, own ▸ within, he, rfl⟩
      · rintro ⟨last, hl, within, he, rfl⟩
        exact ⟨elapsed, tooSoon?_eq_some.2 ⟨last, latest ▸ hl, own ▸ within, he⟩, rfl⟩
    rw [← expected, he]
    constructor
    · rintro ⟨r, hr, same, answer⟩
      rw [← denied.only r hr same]
      exact Answer.throttle?_eq_some.2 answer
    · intro throttled
      obtain ⟨r, hr, same, told⟩ := denied.answered _ throttled
      exact ⟨r, hr, same, Answer.throttle?_eq_some.1 told⟩
  · intro idle ticket scope waiting first last hl within
    rw [← congrArg Pacing.interval own] at within
    have soon := tooSoon?_eq_some.2 ⟨last, paced.latest.trans hl, within, rfl⟩
    have granted := grant_of_tooSoon source idle first soon
    rw [own] at granted
    exact granted
  · intro idle ticket serves time hs
    have := paced.spaced_of_serves idle serves hs
    rwa [own] at this
  · intro r hr time hs ticket begin hsight other
    rcases Nat.lt_or_gt_of_ne other with before | behind
    · refine .inr ⟨before, ?_⟩
      rw [← Reply.time_of_success? hs]
      exact began_of_before hsight hr before
    · have := paced.sighted _ hsight r hr time hs behind
      rw [own] at this
      exact .inl ⟨behind, this⟩

/-- A second after a success a refetch is refused, and a millisecond later one is let in. -/
theorem renewed_spaced :
    let w := World.play tens .eachSecond ⟨⟨1, []⟩, [], ()⟩ renewed
    let seen := World.sights tens .eachSecond ⟨⟨1, []⟩, [], ()⟩ renewed
    Spaced tens .eachSecond ⟨⟨1, []⟩, [], ()⟩ renewed w seen ∧
      successes w.tracker.replies = [1061000000, 30000000] ∧
      w.tracker.replies.filterMap (·.answer.throttle?) = [(1000000000, 1000000000)] ∧
      seen = [.ended 5 1061000000 (.value ⟨20, 7⟩), .began 5 1031000000,
        .ended 1 30000000 (.value ⟨10, 7⟩), .began 1 0] :=
  ⟨play_spaced tens .eachSecond ⟨⟨1, []⟩, [], ()⟩ renewed, rfl, rfl, rfl⟩

end CallGuard.Sequence
