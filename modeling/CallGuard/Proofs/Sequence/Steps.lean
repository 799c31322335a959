/-
What the steps of a tracker do: to its line of callers, to the number it hands
out next, and to the fetches (`Advanced`).
-/
import CallGuard.Proofs.Sequence.History

namespace CallGuard.Sequence

variable {S σ : Type}

/-! ## The number handed out next -/

/-- A record, and whether it was never handed out from, are what the history tells. -/
structure Kept (record : Record) (untouched : Bool) (h : History) : Prop where
  untouched : untouched = !h.handedAny
  account : record.account = h.account
  sequence : record.sequence = History.stepped h.base h.steps
  inStep : h.InStep

namespace Kept

variable {record : Record} {untouched : Bool} {h : History}

theorem new : Kept ⟨0, 0⟩ true [] where
  untouched := rfl
  account := rfl
  sequence := rfl
  inStep r before hs := by cases List.suffix_nil.1 hs

theorem told (k : Kept record untouched h) : Kept record untouched (.told :: h) where
  untouched := k.untouched
  account := k.account
  sequence := by
    rw [History.base_cons rfl, History.steps_cons rfl rfl]
    exact k.sequence
  inStep := k.inStep.cons nofun

theorem handed (k : Kept record untouched h) :
    Kept (if untouched then record else record.next) false
      (.handed (if untouched then record else record.next) :: h) := by
  have account : (if untouched then record else record.next).account = h.account := by
    rw [← k.account]
    split <;> rfl
  have sequence : (if untouched then record else record.next).sequence =
      History.stepped h.base
        (History.steps (.handed (if untouched then record else record.next) :: h)) := by
    rw [History.steps_cons_handed]
    cases hu : h.handedAny with
    | false =>
      have first := k.untouched
      rw [hu, Bool.not_false] at first
      rw [if_pos first, if_neg Bool.false_ne_true, k.sequence, History.steps_of_not_handedAny hu]
    | true =>
      have later := k.untouched
      rw [hu, Bool.not_true] at later
      rw [later, if_neg Bool.false_ne_true, if_pos rfl]
      show Word.clamp (record.sequence + 1) = _
      rw [k.sequence]
      exact History.clamp_stepped h.base h.steps 0
  refine ⟨by rw [History.handedAny_cons]; rfl, account, ?_, k.inStep.cons fun r hr => ?_⟩
  · rw [History.base_cons rfl]
    exact sequence
  · cases hr
    exact ⟨account, sequence⟩

theorem overwrote (k : Kept record untouched h) (sequence : Nat) :
    Kept { record with sequence := sequence } untouched (.overwrote sequence :: h) where
  untouched := k.untouched
  account := k.account
  sequence := by
    rw [History.base_cons_of_set (n := sequence) rfl, History.steps_cons_of_set rfl]
    rfl
  inStep := k.inStep.cons nofun

theorem refetched (k : Kept record untouched h) (r : Record) : Kept r untouched (.refetched r :: h) where
  untouched := k.untouched
  account := (History.account_cons_of_refetched r).symm
  sequence := by
    rw [History.base_cons_of_set (n := r.sequence) rfl, History.steps_cons_of_set rfl]
    rfl
  inStep := k.inStep.cons nofun

end Kept

/-! ## What each step does -/

namespace Tracker

variable {t t' : Tracker σ} {now : Nat} {w w' : Setting S} {h : History}

/-- A refetch that is asked for is refused, or keeps the tracker busy. -/
theorem beginRefetch_cases (idle : t.busy = none) (ticket : Nat) (scope : Scope) (now : Nat)
    (w : Setting S) :
    (∃ f, (t.beginRefetch ticket scope now w).1 = t.reply ticket now (.refetched (.error f))) ∨
      ∃ own, (t.beginRefetch ticket scope now w).1 = { t with busy := some ⟨ticket, own, .due⟩ } := by
  unfold beginRefetch
  split
  · exact .inl ⟨_, rfl⟩
  · dsimp only
    split
    · rename_i reason _
      refine .inl ⟨.fetchEnded reason, ?_⟩
      simp only [giveUp, ← idle]
    · exact .inr ⟨_, rfl⟩

/-- A request is answered at once, or is a refetch that keeps the tracker busy. -/
theorem serve_cases (idle : t.busy = none) (k : Kept t.record t.untouched h) (ticket now : Nat)
    (w : Setting S) (request : Request) :
    (∃ answer record untouched,
        (t.serve ticket now w request).1 =
          { t with record := record, untouched := untouched }.reply ticket now answer ∧
        Kept record untouched (.of (some request) answer :: h) ∧ Suits request answer) ∨
      ∃ scope own, request = .refetch scope ∧
        (t.serve ticket now w request).1 = { t with busy := some ⟨ticket, own, .due⟩ } := by
  cases request with
  | next => exact .inl ⟨_, _, _, rfl, k.handed, .next _⟩
  | current => exact .inl ⟨_, t.record, t.untouched, rfl, k.told, .current _⟩
  | lastRefetch => exact .inl ⟨_, t.record, t.untouched, rfl, k.told, .lastRefetch _⟩
  | overwrite sequence =>
    exact .inl ⟨_, _, t.untouched, rfl, k.overwrote sequence, .overwrite sequence⟩
  | refetch scope =>
    rcases beginRefetch_cases idle ticket scope now w with ⟨f, he⟩ | ⟨own, he⟩
    · exact .inl ⟨.refetched (.error f), t.record, t.untouched, he, k.told, .refetch scope _⟩
    · exact .inr ⟨scope, own, rfl, he⟩

theorem grant?_eq_some (hg : t.grant? now w = some (t', w')) :
    ∃ ticket request waiting, t.busy = none ∧ t.waiting = (ticket, request) :: waiting ∧
      t' = ({ t with waiting := waiting }.serve ticket now w request).1 := by
  unfold grant? at hg
  split at hg
  · rename_i ticket request waiting hb hw
    exact ⟨ticket, request, waiting, hb, hw, by rw [Option.some.inj hg]⟩
  · cases hg

/-- The end of a refetch is its answer; only its success changes the record. -/
theorem conclude?_cases {source : Operation S Unit σ Record} (k : Kept t.record t.untouched h)
    (hc : t.conclude? source now w = some (t', w')) :
    ∃ b answer record refetchedAt, t.busy = some b ∧
      t' = { t with busy := none, record := record, refetchedAt := refetchedAt }.reply b.ticket now
        answer ∧
      ∀ scope, Kept record t.untouched (.of (some (.refetch scope)) answer :: h) ∧
        Suits (.refetch scope) answer := by
  unfold conclude? at hc
  obtain ⟨b, hb, hc⟩ := Option.bind_eq_some_iff.1 hc
  split at hc
  · cases hc
  · cases hc
    exact ⟨b, _, t.record, t.refetchedAt, hb, rfl, fun scope => ⟨k.told, .refetch scope _⟩⟩
  · cases hc
    exact ⟨b, _, t.record, t.refetchedAt, hb, rfl, fun scope => ⟨k.told, .refetch scope _⟩⟩
  · cases hc
  · rename_i outcome _ _
    cases outcome with
    | value r =>
      cases hc
      exact ⟨b, _, r, some now, hb, rfl, fun scope => ⟨k.refetched r, .refetch scope _⟩⟩
    | failure f =>
      cases hc
      exact ⟨b, _, t.record, t.refetchedAt, hb, rfl, fun scope => ⟨k.told, .refetch scope _⟩⟩
    | panic message =>
      cases hc
      exact ⟨b, _, t.record, t.refetchedAt, hb, rfl, fun scope => ⟨k.told, .refetch scope _⟩⟩

/-- A step of a fetch takes it from one of these to the other. -/
inductive Stepped (b : Refetch σ) : Refetch σ → Prop
  | waits {s} : b.fetch = .due → Stepped b { b with fetch := .running s }
  | came {outcome} : b.fetch = .due → Stepped b { b with fetch := .ended outcome }
  | goesOn {s s'} : b.fetch = .running s → Stepped b { b with fetch := .running s' }
  | ended {s outcome} : b.fetch = .running s → Stepped b { b with fetch := .ended outcome }

/-- A fetch goes on: that leads from `t` to the last argument. -/
inductive Advanced (t : Tracker σ) : Tracker σ → Prop
  | ran {b b' started} : t.busy = some b → Stepped b b' →
      Advanced t { t with busy := some b', started := started }
  | strayed {front b b' rest started} : t.strays = front ++ b :: rest → Stepped b b' →
      Advanced t { t with strays := front ++ b' :: rest, started := started }

variable {source : Operation S Unit σ Record}

theorem Stepped.of_fetch? {started : Nat} {b : Refetch σ} {r}
    (h : fetch? source now started b w = some r) : Stepped b r.2.1 := by
  unfold fetch? at h
  split at h
  · rename_i hb
    cases h
    generalize source.start () (started + 1) b.scope now w = p
    obtain ⟨w', p⟩ := p
    cases p with
    | waiting s => exact .waits hb
    | finished outcome => exact .came hb
  · rename_i s hb
    obtain ⟨⟨w', p⟩, -, h⟩ := Option.map_eq_some_iff.1 h
    cases h
    cases p with
    | waiting s' => exact .goesOn hb
    | finished outcome => exact .ended hb
  · cases h

theorem Stepped.ticket {b b' : Refetch σ} (h : Stepped b b') : b'.ticket = b.ticket := by
  cases h <;> rfl

theorem Stepped.scope {b b' : Refetch σ} (h : Stepped b b') : b'.scope = b.scope := by
  cases h <;> rfl

theorem Stepped.begun {b b' : Refetch σ} (h : Stepped b b') : b'.fetch ≠ .due := by
  intro due
  cases h <;> cases due

/-- The first fetch that can go on does, and no other. -/
theorem fetchAny?_eq_some {started : Nat} {l : List (Refetch σ)} {r}
    (h : fetchAny? source now started w l = some r) :
    ∃ front b b' rest, l = front ++ b :: rest ∧ r.2.1 = front ++ b' :: rest ∧ Stepped b b' := by
  induction l generalizing r with
  | nil => cases h
  | cons b l ih =>
    unfold fetchAny? at h
    split at h
    · rename_i started' b' w' hf
      cases h
      exact ⟨[], b, b', l, rfl, rfl, .of_fetch? hf⟩
    · obtain ⟨r', hr, h⟩ := Option.map_eq_some_iff.1 h
      obtain ⟨front, c, c', rest, hl, hr', hs⟩ := ih hr
      cases h
      exact ⟨b :: front, c, c', rest, congrArg (b :: ·) hl, congrArg (b :: ·) hr', hs⟩

theorem Advanced.of_fetchStep? (h : t.fetchStep? source now w = some (t', w')) : Advanced t t' := by
  unfold fetchStep? at h
  split at h
  · rename_i started b' w'' hb
    obtain ⟨b, busy, hf⟩ := Option.bind_eq_some_iff.1 hb
    cases h
    exact .ran busy (.of_fetch? hf)
  · obtain ⟨⟨started, strays, w''⟩, hs, h⟩ := Option.map_eq_some_iff.1 h
    obtain ⟨front, b, b', rest, hl, hr, hb⟩ := fetchAny?_eq_some hs
    cases h
    simp only at hr
    rw [hr]
    exact .strayed hl hb

theorem fetchStep?_cases (hf : t.fetchStep? source now w = some (t', w')) :
    ∃ busy strays started, t' = { t with busy := busy, strays := strays, started := started } ∧
      busy.map (·.ticket) = t.busy.map (·.ticket) := by
  cases Advanced.of_fetchStep? hf with
  | ran busy hs =>
    refine ⟨_, t.strays, _, rfl, ?_⟩
    rw [busy, Option.map_some, Option.map_some, hs.ticket]
  | strayed _ _ => exact ⟨t.busy, _, _, rfl, rfl⟩

/-- A caller that goes away is not served any more, and nobody else is touched. -/
theorem abandon_cases (t : Tracker σ) (ticket : Nat) :
    ∃ busy strays, t.abandon ticket =
        { t with waiting := t.waiting.filter (·.1 != ticket), busy := busy, strays := strays } ∧
      (busy = t.busy ∨ busy = none ∧ t.busy.map (·.ticket) = some ticket) := by
  unfold abandon
  dsimp only
  split
  · rename_i b hb
    split
    · rename_i own
      refine ⟨none, _, rfl, .inr ⟨rfl, ?_⟩⟩
      rw [hb, Option.map_some, own]
    · exact ⟨some b, t.strays, by rw [← hb], .inl hb.symm⟩
  · rename_i hb
    exact ⟨none, t.strays, by rw [← hb], .inl hb.symm⟩

end Tracker

end CallGuard.Sequence
