/-
What it is to trim a text: white space is cut off at both ends, and neither end of what is
left is white space. There is only one such text, so nothing changes when it is trimmed
again.
-/
import CallGuard.Text.Blank
import Mathlib.Data.List.DropRight

namespace CallGuard.Text

/-- One text is another less the white space at its ends. -/
structure Trimmed (s t : String) : Prop where
  /-- Nothing but white space is cut off. -/
  cut : ∃ front back, s.toList = front ++ (t.toList ++ back) ∧ (∀ c ∈ front, isBlank c = true) ∧
    ∀ c ∈ back, isBlank c = true
  first : ∀ c, t.toList.head? = some c → isBlank c = false
  last : ∀ c, t.toList.getLast? = some c → isBlank c = false

/-- There is something else than white space in a text. -/
def hasContent (s : String) : Bool := s.toList.any fun c => !isBlank c

theorem hasContent_eq_false_iff {s : String} : hasContent s = false ↔ ∀ c ∈ s.toList, isBlank c = true := by
  simp [hasContent]

section Lists

variable {p : Char → Bool} {front cs back : List Char}

theorem dropWhile_append_of_head? (cut : ∀ c ∈ front, p c = true)
    (first : ∀ c, cs.head? = some c → p c = false) : (front ++ cs).dropWhile p = cs := by
  rw [List.dropWhile_append_of_pos cut]
  cases cs with
  | nil => rfl
  | cons c cs => simp [first c rfl]

theorem rdropWhile_append_of_getLast? (cut : ∀ c ∈ back, p c = true)
    (last : ∀ c, cs.getLast? = some c → p c = false) : (cs ++ back).rdropWhile p = cs := by
  have mirrored : (back.reverse ++ cs.reverse).dropWhile p = cs.reverse :=
    dropWhile_append_of_head? (by simpa using cut) (by simpa using last)
  rw [List.rdropWhile, List.reverse_append, mirrored, List.reverse_reverse]

end Lists

theorem toList_trim (s : String) : (trim s).toList = (s.toList.dropWhile isBlank).rdropWhile isBlank := by
  simp [trim, List.rdropWhile]

theorem trimmed_trim (s : String) : Trimmed s (trim s) := by
  generalize ht : trim s = t
  have hl : t.toList = (s.toList.dropWhile isBlank).rdropWhile isBlank := by rw [← ht, toList_trim]
  have front := List.takeWhile_append_dropWhile (p := isBlank) (l := s.toList)
  have starts := List.head?_dropWhile_not isBlank s.toList
  generalize s.toList.dropWhile isBlank = rest at hl front starts
  have back := List.rdropWhile_append_rtakeWhile (p := isBlank) (l := rest)
  have ends := List.rdropWhile_last_not isBlank rest
  rw [← hl] at back ends
  refine ⟨⟨s.toList.takeWhile isBlank, rest.rtakeWhile isBlank, ?_, ?_, ?_⟩, ?_, ?_⟩
  · rw [back, front]
  · exact fun c => List.mem_takeWhile_imp
  · exact fun c => List.mem_rtakeWhile_imp
  · intro c hc
    rw [← back, List.head?_append, hc] at starts
    exact starts
  · intro c hc
    obtain ⟨some_, rfl⟩ := List.mem_getLast?_eq_getLast hc
    exact Bool.eq_false_iff.2 (ends some_)

/-- There is only one way to trim a text. -/
theorem Trimmed.eq_trim {s t : String} (h : Trimmed s t) : t = trim s := by
  obtain ⟨front, back, split, hf, hb⟩ := h.cut
  rw [← String.toList_inj, toList_trim, split]
  cases ht : t.toList with
  | nil =>
    -- all of the text is white space, and goes with what is cut off in front
    have nothing : (front ++ ([] ++ back)).dropWhile isBlank = [] := by
      rw [List.dropWhile_eq_nil_iff]
      intro c hc
      rcases List.mem_append.1 hc with hc | hc
      · exact hf c hc
      · exact hb c hc
    rw [nothing, List.rdropWhile_nil]
  | cons c cs =>
    have first : ∀ c', (c :: cs ++ back).head? = some c' → isBlank c' = false := by
      intro c' hc
      exact h.first c' (by rw [ht]; exact hc)
    rw [dropWhile_append_of_head? hf first, rdropWhile_append_of_getLast? hb (ht ▸ h.last)]

theorem trim_trim (s : String) : trim (trim s) = trim s := by
  have h := trimmed_trim s
  have same : Trimmed (trim s) (trim s) := ⟨⟨[], [], by simp, nofun, nofun⟩, h.first, h.last⟩
  exact same.eq_trim.symm

theorem isEmpty_trim (s : String) : (trim s).isEmpty = !hasContent s := by
  rw [Bool.eq_iff_iff, Bool.not_eq_true', hasContent_eq_false_iff, String.isEmpty_iff]
  constructor
  · intro empty
    obtain ⟨front, back, split, hf, hb⟩ := (trimmed_trim s).cut
    rw [empty] at split
    intro c hc
    rw [split] at hc
    rcases List.mem_append.1 hc with hc | hc
    · exact hf c hc
    · exact hb c hc
  · intro blank
    have empty : Trimmed s "" := ⟨⟨s.toList, [], by simp, blank, nofun⟩, nofun, nofun⟩
    exact empty.eq_trim.symm

end CallGuard.Text
