/-
The history of a tracker: what it did for its callers, one after the other. From
it follows what it hands out next, and what it has handed out between two
overwrites of its number.
-/
import CallGuard.Sequence.Tracker

namespace CallGuard.Sequence

/-- An answer is of the kind that was asked for. -/
inductive Suits : Request → Answer → Prop
  | next (r : Record) : Suits .next (.record r)
  | current (r : Record) : Suits .current (.record r)
  | lastRefetch (t : Option Nat) : Suits .lastRefetch (.time t)
  | overwrite (sequence : Nat) : Suits (.overwrite sequence) .overwritten
  | refetch (scope : Scope) (r : Except Failure Record) : Suits (.refetch scope) (.refetched r)

/-- What a tracker did when it answered a request. -/
inductive Deed where
  | handed (r : Record)
  | overwrote (sequence : Nat)
  | refetched (r : Record)
  /-- Nothing that changes what it hands out. -/
  | told

namespace Deed

/-- What was done for a request, by its answer. -/
def of : Option Request → Answer → Deed
  | some .next, .record r => .handed r
  | some (.overwrite sequence), .overwritten => .overwrote sequence
  | some (.refetch _), .refetched (.ok r) => .refetched r
  | _, _ => .told

/-- Whether a number was handed out. -/
def isHanded : Deed → Bool
  | handed _ => true
  | _ => false

/-- The number that a deed sets. -/
def sets? : Deed → Option Nat
  | overwrote sequence => some sequence
  | refetched r => some r.sequence
  | handed _ | told => none

/-- Whether the number was set, from outside or by a refetch. -/
def isSet (d : Deed) : Bool := d.sets?.isSome

/-- The account that a deed sets. -/
def account? : Deed → Option Nat
  | refetched r => some r.account
  | handed _ | overwrote _ | told => none

end Deed

/-- What a tracker did, the latest first. -/
abbrev History := List Deed

namespace History

/-- What was done since the number was last set, from outside or by a refetch. -/
def sinceSet (h : History) : History := h.takeWhile (!·.isSet)

/-- What was done up to then. -/
def upToSet (h : History) : History := h.dropWhile (!·.isSet)

/-- The number that was last set; zero before any. -/
def base (h : History) : Nat := (h.findSome? (·.sets?)).getD 0

/-- The account of the last refetch that succeeded; zero before any. -/
def account (h : History) : Nat := (h.findSome? (·.account?)).getD 0

/-- Whether a number was ever handed out. -/
def handedAny (h : History) : Bool := h.any (·.isHanded)

/-- How many numbers were handed out since the number was last set, not counting the
very first that was ever handed out. -/
def steps (h : History) : Nat :=
  h.sinceSet.countP (·.isHanded) - if h.upToSet.handedAny then 0 else 1

/-- The number `j` steps after `base`; there is none after the last. -/
def stepped (base j : Nat) : Nat := if j = 0 then base else Word.clamp (base + j)

theorem stepped_of_le {base : Nat} (h : base ≤ Word.last) (j : Nat) :
    stepped base j = min (base + j) Word.last := by
  unfold stepped
  split
  · rename_i hj
    rw [hj, Nat.add_zero, Nat.min_eq_left h]
  · rfl

theorem clamp_stepped (base j n : Nat) :
    Word.clamp (stepped base j + n + 1) = stepped base (j + n + 1) := by
  have later : ¬ j + n + 1 = 0 := Nat.succ_ne_zero _
  unfold stepped Word.clamp
  rw [if_neg later]
  split <;> omega

/-! ## One more deed -/

section Cons

variable {d : Deed} {h : History}

theorem base_cons_of_set {n : Nat} (hd : d.sets? = some n) : base (d :: h) = n := by
  simp only [base, List.findSome?_cons, hd, Option.getD_some]

theorem base_cons (hd : d.isSet = false) : base (d :: h) = h.base := by
  simp only [base, List.findSome?_cons, Option.isSome_eq_false_iff.1 hd |> Option.isNone_iff_eq_none.1]

theorem account_cons_of_refetched (r : Record) : account (.refetched r :: h) = r.account := rfl

theorem handedAny_cons : handedAny (d :: h) = (d.isHanded || h.handedAny) := by
  simp only [handedAny, List.any_cons]

theorem steps_cons_of_set (hd : d.isSet = true) : steps (d :: h) = 0 := by
  have since : sinceSet (d :: h) = [] := by
    simp only [sinceSet, List.takeWhile_cons, hd, Bool.not_true, Bool.false_eq_true, if_false]
  rw [steps, since, List.countP_nil, Nat.zero_sub]

theorem sinceSet_cons (hd : d.isSet = false) : sinceSet (d :: h) = d :: h.sinceSet := by
  simp only [sinceSet, List.takeWhile_cons, hd, Bool.not_false, if_true]

theorem upToSet_cons (hd : d.isSet = false) : upToSet (d :: h) = h.upToSet := by
  simp only [upToSet, List.dropWhile_cons, hd, Bool.not_false, if_true]

theorem steps_cons (hd : d.isSet = false) (hh : d.isHanded = false) : steps (d :: h) = h.steps := by
  rw [steps, sinceSet_cons hd, upToSet_cons hd, List.countP_cons_of_neg (by rw [hh]; exact nofun)]
  rfl

theorem handedAny_eq (h : History) : h.handedAny = (h.sinceSet.handedAny || h.upToSet.handedAny) := by
  simp only [handedAny, ← List.any_append]
  rw [sinceSet, upToSet, List.takeWhile_append_dropWhile]

theorem countP_of_not_handedAny {h : History} (hn : h.handedAny = false) : h.countP (·.isHanded) = 0 := by
  rw [List.countP_eq_zero]
  intro d hd
  exact List.any_eq_false.1 hn d hd

theorem steps_of_not_handedAny {h : History} (hn : h.handedAny = false) : h.steps = 0 := by
  rw [handedAny_eq, Bool.or_eq_false_iff] at hn
  rw [steps, countP_of_not_handedAny hn.1, Nat.zero_sub]

/-- The first number ever handed out is no step; every other is one. -/
theorem steps_cons_handed (r : Record) (h : History) :
    steps (.handed r :: h) = if h.handedAny then h.steps + 1 else 0 := by
  have since : (Deed.handed r).isSet = false := rfl
  rw [steps, steps, sinceSet_cons since, upToSet_cons since, List.countP_cons_of_pos rfl,
    handedAny_eq h]
  -- Only if none was handed out up to the overwrite can the first one come after it.
  cases hu : h.upToSet.handedAny with
  | true => simp only [Bool.or_true, if_true]; rfl
  | false =>
    rw [Bool.or_false]
    cases hs : h.sinceSet.handedAny with
    | true =>
      obtain ⟨d, hd, hh⟩ := List.any_eq_true.1 hs
      have : 0 < h.sinceSet.countP (·.isHanded) := List.countP_pos_iff.2 ⟨d, hd, hh⟩
      simp only [Bool.false_eq_true, if_false, if_true]
      omega
    | false =>
      rw [countP_of_not_handedAny hs]
      rfl

/-- The first number after an overwrite comes after it, unless it is the very first. -/
example : steps [.handed ⟨8, 0⟩, .overwrote 7, .handed ⟨0, 0⟩] = 1 ∧
    steps [.handed ⟨7, 0⟩, .overwrote 7] = 0 := by
  decide

end Cons

/-! ## Numbers handed out in step -/

/-- Every number that was handed out is as many steps after the number last set as
were made by then, under the account of the last refetch that succeeded. -/
def InStep (h : History) : Prop :=
  ∀ r before, .handed r :: before <:+ h →
    r.account = account before ∧ r.sequence = stepped (base before) (steps (.handed r :: before))

theorem InStep.cons {d : Deed} {h : History} (hs : InStep h)
    (hd : ∀ r, d = .handed r →
      r.account = h.account ∧ r.sequence = stepped h.base (steps (.handed r :: h))) :
    InStep (d :: h) := by
  intro r before hsuffix
  rcases List.suffix_cons_iff.1 hsuffix with he | hsuffix
  · cases he
    exact hd r rfl
  · exact hs r before hsuffix

theorem base_append {between older : History} (hb : ∀ d ∈ between, d.isSet = false) :
    base (between ++ older) = base older := by
  induction between with
  | nil => rfl
  | cons d between ih =>
    rw [List.cons_append, base_cons (hb d List.mem_cons_self)]
    exact ih fun d hd => hb d (List.mem_cons_of_mem _ hd)

theorem handedAny_append {between older : History} (ho : older.handedAny = true) :
    handedAny (between ++ older) = true := by
  rw [handedAny, List.any_append]
  exact Bool.or_eq_true_iff.2 (.inr ho)

theorem steps_append {between older : History} (hb : ∀ d ∈ between, d.isSet = false)
    (ho : older.handedAny = true) :
    steps (between ++ older) = older.steps + between.countP (·.isHanded) := by
  induction between with
  | nil => rfl
  | cons d between ih =>
    have ih := ih fun d hd => hb d (List.mem_cons_of_mem _ hd)
    rw [List.cons_append]
    cases d with
    | handed r =>
      rw [steps_cons_handed, if_pos (handedAny_append ho), ih, List.countP_cons_of_pos rfl]
      omega
    | told =>
      rw [steps_cons rfl rfl, ih, List.countP_cons_of_neg Bool.false_ne_true]
    | overwrote n | refetched r => cases hb _ List.mem_cons_self

/-- Between two overwrites the numbers handed out follow one another. -/
theorem InStep.between {h between older : History} {r r' : Record} (hl : InStep h)
    (hs : .handed r :: (between ++ .handed r' :: older) <:+ h) (hb : ∀ d ∈ between, d.isSet = false) :
    r.sequence = Word.clamp (r'.sequence + between.countP (·.isHanded) + 1) := by
  have tail := List.suffix_append (Deed.handed r :: between) (.handed r' :: older)
  have earlier : .handed r' :: older <:+ h := tail.trans hs
  have any : handedAny (.handed r' :: older) = true := by rw [handedAny_cons]; rfl
  rw [(hl r _ hs).2, (hl r' older earlier).2, base_append hb, base_cons rfl, steps_cons_handed,
    if_pos (handedAny_append any), steps_append hb any, clamp_stepped]

end History

end CallGuard.Sequence
