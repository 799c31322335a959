/-
Texts up to the case of their letters, and what lower-casing makes of them. A place in a
text becomes what it becomes by itself, letter by letter, but for capital sigmas: their
lower-case letter depends on what stands around them.
-/
import CallGuard.Text.Lowercase
import Mathlib.Data.List.Forall2

namespace CallGuard.Text

/-! ## Lower-casing a place in a text -/

/-- The lower-case form of a character; `before` is the text before it, backwards. -/
def lowerAt (before : List Char) (c : Char) (rest : List Char) : List Char :=
  if c = 'Σ' then [if startsCased before && !startsCased rest then 'ς' else 'σ'] else lowerChar c

/-- The lower-case form of a place between two texts, of which the first is read backwards. -/
def lowerBetween (before : List Char) : List Char → (after : List Char) → List Char
  | [], _ => []
  | c :: place, after => lowerAt before c (place ++ after) ++ lowerBetween (c :: before) place after

theorem lowerAfter_append (before place after : List Char) : lowerAfter before (place ++ after) =
    lowerBetween before place after ++ lowerAfter (place.reverse ++ before) after := by
  induction place generalizing before with
  | nil => rfl
  | cons c place ih =>
    rw [List.cons_append, lowerAfter, ih, lowerBetween, List.reverse_cons, List.append_assoc,
      List.append_assoc]
    rfl

theorem lowercase_eq_lowerBetween (cs : List Char) : lowercase cs = lowerBetween [] cs [] := by
  have whole := lowerAfter_append [] cs []
  rw [List.append_nil, lowerAfter, List.append_nil] at whole
  exact whole

/-- A place in a text is found in its lower-case form, as it is lower-cased there. -/
theorem lowerBetween_infix (front place back : List Char) :
    lowerBetween front.reverse place back <:+: lowercase (front ++ (place ++ back)) := by
  rw [lowercase, lowerAfter_append, List.append_nil, lowerAfter_append, ← List.append_assoc]
  exact List.infix_append _ _ _

/-! ## The same letters -/

/-- The lower-case forms of a character. A capital sigma has two. -/
def lowerForms (c : Char) : List (List Char) :=
  if c = 'Σ' then [['σ'], ['ς']] else [lowerChar c]

/-- The same up to case: a lower-case form of one is one of the other. -/
def SameLetter (c d : Char) : Prop := ∃ form ∈ lowerForms c, form ∈ lowerForms d

instance (c d : Char) : Decidable (SameLetter c d) :=
  inferInstanceAs (Decidable (∃ form ∈ lowerForms c, form ∈ lowerForms d))

theorem SameLetter.refl (c : Char) : SameLetter c c := by
  unfold SameLetter lowerForms
  split
  · exact ⟨['σ'], List.mem_cons_self, List.mem_cons_self⟩
  · exact ⟨_, List.mem_cons_self, List.mem_cons_self⟩

theorem SameLetter.lowerChar_eq {c d : Char} (h : SameLetter c d) (hc : c ≠ 'Σ') (hd : d ≠ 'Σ') :
    lowerChar c = lowerChar d := by
  unfold SameLetter lowerForms at h
  rw [if_neg hc, if_neg hd] at h
  obtain ⟨form, lower, lower'⟩ := h
  rw [← List.mem_singleton.1 lower, List.mem_singleton.1 lower']

/-- Two texts between others, of which those before are read backwards: where either has a
capital sigma, both have the same lower-case letter. -/
def SigmasAgree (before after before' after' : List Char) : List Char → List Char → Prop
  | c :: cs, d :: ds =>
    (c = 'Σ' ∨ d = 'Σ' → lowerAt before c (cs ++ after) = lowerAt before' d (ds ++ after')) ∧
      SigmasAgree (c :: before) after (d :: before') after' cs ds
  | _, _ => True

theorem SigmasAgree.of_not_mem {before after before' after' cs ds : List Char} (hc : 'Σ' ∉ cs)
    (hd : 'Σ' ∉ ds) : SigmasAgree before after before' after' cs ds := by
  induction cs generalizing before before' ds with
  | nil => trivial
  | cons c cs ih =>
    cases ds with
    | nil => trivial
    | cons d ds =>
      rw [List.mem_cons, not_or] at hc hd
      refine ⟨fun sigma => ?_, ih hc.2 hd.2⟩
      rcases sigma with rfl | rfl
      · exact absurd rfl hc.1
      · exact absurd rfl hd.1

/-- Texts of the same letters have the same lower-case form, if their capital sigmas do. -/
theorem lowerBetween_congr {before after before' after' cs ds : List Char}
    (same : List.Forall₂ SameLetter cs ds) (agree : SigmasAgree before after before' after' cs ds) :
    lowerBetween before cs after = lowerBetween before' ds after' := by
  induction same generalizing before before' with
  | nil => rfl
  | @cons c d cs ds letter _ ih =>
    obtain ⟨sigma, agree⟩ := agree
    have first : lowerAt before c (cs ++ after) = lowerAt before' d (ds ++ after') := by
      by_cases either : c = 'Σ' ∨ d = 'Σ'
      · exact sigma either
      · rw [not_or] at either
        simp only [lowerAt, if_neg either.1, if_neg either.2, letter.lowerChar_eq either.1 either.2]
    rw [lowerBetween, lowerBetween, first, ih agree]

/-- A text stands somewhere in another up to the case of its letters, and every capital sigma
there or in the text itself is lower-cased alike. -/
def StandsIn (part text : List Char) : Prop :=
  ∃ front place back, text = front ++ (place ++ back) ∧ List.Forall₂ SameLetter part place ∧
    SigmasAgree [] [] front.reverse back part place

/-- **What stands in a text is found when both are lower-cased.** -/
theorem StandsIn.occursIn_lowercase {part text : List Char} (h : StandsIn part text) :
    occursIn (lowercase part) (lowercase text) = true := by
  obtain ⟨front, place, back, rfl, same, agree⟩ := h
  rw [occursIn_iff, lowercase_eq_lowerBetween part, lowerBetween_congr same agree]
  exact lowerBetween_infix front place back

theorem StandsIn.of_letters {part place : List Char} (same : List.Forall₂ SameLetter part place)
    (hp : 'Σ' ∉ part) (hq : 'Σ' ∉ place) (front back : List Char) :
    StandsIn part (front ++ (place ++ back)) :=
  ⟨front, place, back, rfl, same, .of_not_mem hp hq⟩

theorem StandsIn.of_occurs {part text : List Char} (occurs : part <:+: text) (hp : 'Σ' ∉ part) :
    StandsIn part text := by
  obtain ⟨front, back, rfl⟩ := occurs
  rw [List.append_assoc]
  exact .of_letters (List.forall₂_same.2 fun c _ => .refl c) hp hp front back

/-! ## Whole words -/

/-- Whether a text starts with a cased letter, what follows it does not decide, if that does not
start with one. -/
theorem startsCased_append {cs rest : List Char} (ends : startsCased rest = false) :
    startsCased (cs ++ rest) = startsCased cs := by
  unfold startsCased at ends ⊢
  rw [List.dropWhile_append]
  cases cs.dropWhile isCaseIgnorable with
  | nil => exact ends
  | cons c cs => rfl

theorem SigmasAgree.of_words {front back : List Char} (part before : List Char)
    (hf : startsCased front = false) (hb : startsCased back = false) :
    SigmasAgree before [] (before ++ front) back part part := by
  induction part generalizing before with
  | nil => trivial
  | cons c part ih =>
    refine ⟨fun _ => ?_, ih (c :: before)⟩
    rw [lowerAt, lowerAt, startsCased_append hf, startsCased_append hb, List.append_nil]

/-- Verbatim, any text stands where it occurs as whole words. -/
theorem StandsIn.of_words {part front back : List Char} (hf : startsCased front.reverse = false)
    (hb : startsCased back = false) : StandsIn part (front ++ (part ++ back)) :=
  ⟨front, part, back, rfl, List.forall₂_same.2 fun c _ => .refl c, .of_words part [] hf hb⟩

end CallGuard.Text
