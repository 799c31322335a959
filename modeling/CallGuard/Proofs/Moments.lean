/-
Moments of a run. A run is a list of events, one that goes on has one more at its end, and
what happens at some moment of it is told by the events up to then.
-/
import Mathlib.Data.List.Basic

namespace CallGuard

/-- Something happens somewhere in a list with one more at its end if it happens before, or at
the end. -/
theorem exists_split_concat {β : Type} {P : List β → β → Prop} {l : List β} {b : β} :
    (∃ before b' after, l ++ [b] = before ++ b' :: after ∧ P before b') ↔
      (∃ before b' after, l = before ++ b' :: after ∧ P before b') ∨ P l b := by
  constructor
  · rintro ⟨before, b', after, split, holds⟩
    rcases List.eq_nil_or_concat after with rfl | ⟨after, last, rfl⟩
    · obtain ⟨same, split⟩ := List.append_inj' split rfl
      cases split
      exact .inr (same ▸ holds)
    · rw [List.concat_eq_append, ← List.cons_append, ← List.append_assoc] at split
      exact .inl ⟨before, b', after, (List.append_inj' split rfl).1, holds⟩
  · rintro (⟨before, b', after, rfl, holds⟩ | holds)
    · exact ⟨before, b', after ++ [b], by rw [List.append_assoc, List.cons_append], holds⟩
    · exact ⟨l, b, [], rfl, holds⟩

end CallGuard
