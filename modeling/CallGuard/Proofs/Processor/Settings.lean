/-
Settings of a processor, however they are put together. Of all choices that are made the
latest of each kind counts, and of the patterns every one; so it does not matter how choices
of different kinds are mixed. What is accepted is in a normal form: put together once more
from its own values it is the same.
-/
import CallGuard.Processor.Config
import CallGuard.Proofs.Text.Trim
import Mathlib.Data.List.Forall2
import Mathlib.Data.List.Induction

namespace CallGuard.Processor.Config

open Text (hasContent Trimmed trim)

/-! ## Patterns -/

theorem cleanPatterns_eq (patterns : List String) :
    cleanPatterns patterns = (patterns.filter hasContent).map trim := by
  simp [cleanPatterns, List.filter_map, Function.comp_def, Text.isEmpty_trim]

theorem forall₂_cleanPatterns (patterns : List String) :
    List.Forall₂ Trimmed (patterns.filter hasContent) (cleanPatterns patterns) := by
  rw [cleanPatterns_eq, List.forall₂_map_right_iff, List.forall₂_same]
  exact fun p _ => Text.trimmed_trim p

theorem cleanPatterns_cleanPatterns (patterns : List String) :
    cleanPatterns (cleanPatterns patterns) = cleanPatterns patterns := by
  simp [cleanPatterns, List.filter_map, Function.comp_def, Text.trim_trim]

/-! ## Values -/

section Values

variable {capacity itemTimeout : Nat} {policy : Option Retry.Policy} {patterns : List String}
  {metricsInterval : Option Nat} {c : Config}

theorem new_eq_ok_iff : new capacity itemTimeout policy patterns metricsInterval = .ok c ↔
    c.capacity = capacity ∧ c.itemTimeout = itemTimeout ∧ c.policy = policy ∧
      c.patterns = cleanPatterns patterns ∧ c.metricsInterval = metricsInterval := by
  constructor
  · intro h
    unfold new at h
    split at h
    · cases h
    split at h
    · cases h
    split at h
    · cases h
    split at h
    · cases h
    cases h
    exact ⟨rfl, rfl, rfl, rfl, rfl⟩
  · rintro ⟨rfl, rfl, rfl, patterns, rfl⟩
    have hc := Nat.ne_of_gt c.capacity_pos
    have ht := Nat.ne_of_gt c.itemTimeout_pos
    have hp : ¬ ∃ p ∈ c.policy, p.budget = 0 := fun ⟨p, mem, zero⟩ => Nat.ne_of_gt (c.budget_pos p mem) zero
    have hm : ¬ ∃ d ∈ c.metricsInterval, d = 0 :=
      fun ⟨d, mem, zero⟩ => Nat.ne_of_gt (c.metricsInterval_pos d mem) zero
    simp only [new, hc, ht, hp, hm, dite_false, ← patterns]

theorem exists_new_eq_ok_iff : (∃ c, new capacity itemTimeout policy patterns metricsInterval = .ok c) ↔
    capacity ≠ 0 ∧ itemTimeout ≠ 0 ∧ (∀ p ∈ policy, p.budget ≠ 0) ∧ ∀ d ∈ metricsInterval, d ≠ 0 := by
  constructor
  · rintro ⟨c, h⟩
    obtain ⟨rfl, rfl, rfl, -, rfl⟩ := new_eq_ok_iff.1 h
    exact ⟨Nat.ne_of_gt c.capacity_pos, Nat.ne_of_gt c.itemTimeout_pos,
      fun p mem => Nat.ne_of_gt (c.budget_pos p mem), fun d mem => Nat.ne_of_gt (c.metricsInterval_pos d mem)⟩
  · rintro ⟨hc, ht, hp, hm⟩
    let c : Config :=
      { capacity, itemTimeout, policy, metricsInterval
        patterns := cleanPatterns patterns
        capacity_pos := Nat.pos_of_ne_zero hc
        itemTimeout_pos := Nat.pos_of_ne_zero ht
        budget_pos := fun p mem => Nat.pos_of_ne_zero (hp p mem)
        metricsInterval_pos := fun d mem => Nat.pos_of_ne_zero (hm d mem) }
    exact ⟨c, new_eq_ok_iff.2 ⟨rfl, rfl, rfl, rfl, rfl⟩⟩

/-- What was accepted is accepted again, and stays as it is. -/
theorem new_of_new_eq_ok (h : new capacity itemTimeout policy patterns metricsInterval = .ok c) :
    new c.capacity c.itemTimeout c.policy c.patterns c.metricsInterval = .ok c := by
  obtain ⟨-, -, -, patterns, -⟩ := new_eq_ok_iff.1 h
  refine new_eq_ok_iff.2 ⟨rfl, rfl, rfl, ?_, rfl⟩
  rw [patterns, cleanPatterns_cleanPatterns]

end Values

/-! ## Choices -/

namespace Draft

/-- The kinds of settings. -/
inductive Kind where
  | capacity | itemTimeout | policy | patterns | metricsInterval
  deriving DecidableEq

namespace Choice

/-- The kind of a choice. -/
def kind : Choice → Kind
  | .capacity _ => .capacity
  | .itemTimeout _ => .itemTimeout
  | .policy _ => .policy
  | .pattern _ => .patterns
  | .metricsInterval _ | .defaultMetrics => .metricsInterval

/-- The capacity that is chosen, if it is. -/
def capacity? : Choice → Option Nat
  | .capacity n => some n
  | _ => none

/-- The timeout of items that is chosen, if it is. -/
def itemTimeout? : Choice → Option Nat
  | .itemTimeout d => some d
  | _ => none

/-- The policy that is chosen, if it is. -/
def policy? : Choice → Option Retry.Policy
  | .policy p => some p
  | _ => none

/-- The pattern that is added, if one is. -/
def pattern? : Choice → Option String
  | .pattern text => some text
  | _ => none

/-- The interval of reports that is chosen, if it is. -/
def metricsInterval? : Choice → Option Nat
  | .metricsInterval d => some d
  | .defaultMetrics => some defaultMetricsInterval
  | _ => none

end Choice

/-- The latest value that choices give. -/
def latest {α : Type} (value : Choice → Option α) (choices : List Choice) : Option α :=
  (choices.filterMap value).getLast?

theorem latest_concat {α : Type} (value : Choice → Option α) (choices : List Choice) (choice : Choice) :
    latest value (choices ++ [choice]) = (value choice).or (latest value choices) := by
  cases h : value choice <;> simp [latest, List.filterMap_append, h]

theorem foldl_set (choices : List Choice) : choices.foldl set empty =
    { capacity := latest Choice.capacity? choices
      itemTimeout := latest Choice.itemTimeout? choices
      policy := latest Choice.policy? choices
      patterns := choices.filterMap Choice.pattern?
      metricsInterval := latest Choice.metricsInterval? choices } := by
  induction choices using List.reverseRecOn with
  | nil => rfl
  | append_singleton choices choice ih =>
    rw [List.foldl_append, List.foldl_cons, List.foldl_nil, ih]
    simp only [latest_concat, List.filterMap_append]
    cases choice <;> simp [set, Choice.capacity?, Choice.itemTimeout?, Choice.policy?, Choice.pattern?,
      Choice.metricsInterval?]

/-- What becomes of choices that are made one after the other. -/
def make (choices : List Choice) : Except Failure Config := (choices.foldl set empty).build

theorem make_of_none {choices : List Choice} (h : latest Choice.capacity? choices = none) :
    make choices = .error (.plain "queue_capacity is required") := by
  rw [make, foldl_set]
  simp only [build, h]

theorem make_of_some {choices : List Choice} {capacity : Nat} (h : latest Choice.capacity? choices = some capacity) :
    make choices = Config.new capacity ((latest Choice.itemTimeout? choices).getD defaultItemTimeout)
      (latest Choice.policy? choices) (choices.filterMap Choice.pattern?)
      (latest Choice.metricsInterval? choices) := by
  rw [make, foldl_set]
  simp only [build, h]

/-! ## The order of choices -/

theorem filterMap_filter_kind {α : Type} {value : Choice → Option α} {k : Kind}
    (own : ∀ choice, choice.kind ≠ k → value choice = none) (choices : List Choice) :
    (choices.filter (·.kind = k)).filterMap value = choices.filterMap value := by
  induction choices with
  | nil => rfl
  | cons choice choices ih =>
    by_cases h : choice.kind = k
    · simp [List.filterMap_cons, h, ih]
    · simp [h, own choice h, ih]

theorem foldl_set_congr {choices choices' : List Choice}
    (h : ∀ k, choices'.filter (·.kind = k) = choices.filter (·.kind = k)) :
    choices'.foldl set empty = choices.foldl set empty := by
  have same {α : Type} (value : Choice → Option α) (k : Kind)
      (own : ∀ choice, choice.kind ≠ k → value choice = none) :
      choices'.filterMap value = choices.filterMap value := by
    rw [← filterMap_filter_kind own choices', h k, filterMap_filter_kind own]
  have capacity := same Choice.capacity? .capacity fun choice hk => by
    cases choice <;> first | rfl | exact absurd rfl hk
  have itemTimeout := same Choice.itemTimeout? .itemTimeout fun choice hk => by
    cases choice <;> first | rfl | exact absurd rfl hk
  have policy := same Choice.policy? .policy fun choice hk => by
    cases choice <;> first | rfl | exact absurd rfl hk
  have patterns := same Choice.pattern? .patterns fun choice hk => by
    cases choice <;> first | rfl | exact absurd rfl hk
  have metricsInterval := same Choice.metricsInterval? .metricsInterval fun choice hk => by
    cases choice <;> first | rfl | exact absurd rfl hk
  simp only [foldl_set, latest, capacity, itemTimeout, policy, patterns, metricsInterval]

theorem filter_kind_swap {before after : List Choice} {a b : Choice} (h : a.kind ≠ b.kind) (k : Kind) :
    (before ++ b :: a :: after).filter (·.kind = k) = (before ++ a :: b :: after).filter (·.kind = k) := by
  by_cases ha : a.kind = k
  · have hb : b.kind ≠ k := fun hb => h (ha.trans hb.symm)
    simp [ha, hb]
  · simp [List.filter_cons, ha]

/-! ## The law -/

/-- The law of settings. -/
structure Canonical (choices : List Choice) (made : Except Failure Config) : Prop where
  /-- There is no default for the capacity. -/
  missing : latest Choice.capacity? choices = none → made = .error (.plain "queue_capacity is required")
  /-- What is made is made of the latest values, and of all patterns in the order of the choices. -/
  made_eq : ∀ capacity, latest Choice.capacity? choices = some capacity →
    made = Config.new capacity ((latest Choice.itemTimeout? choices).getD defaultItemTimeout)
      (latest Choice.policy? choices) (choices.filterMap Choice.pattern?)
      (latest Choice.metricsInterval? choices)
  /-- Two choices of different kinds, one made right after the other, may be swapped. -/
  swapped : ∀ before a b after, choices = before ++ a :: b :: after → a.kind ≠ b.kind →
    make (before ++ b :: a :: after) = made
  /-- Choices that are the same for each kind come to the same, however the kinds are mixed. -/
  mixed : ∀ choices', (∀ k, choices'.filter (·.kind = k) = choices.filter (·.kind = k)) →
    make choices' = made
  /-- A capacity has to be given, and nothing that counts may be zero. -/
  accepted : (∃ c, made = .ok c) ↔ ∃ capacity, latest Choice.capacity? choices = some capacity ∧ capacity ≠ 0 ∧
    (latest Choice.itemTimeout? choices).getD defaultItemTimeout ≠ 0 ∧
    (∀ p ∈ latest Choice.policy? choices, p.budget ≠ 0) ∧ ∀ d ∈ latest Choice.metricsInterval? choices, d ≠ 0
  /-- Of each pattern that has content, what is left when it is trimmed is kept. -/
  patterns : ∀ c, made = .ok c →
    List.Forall₂ Trimmed ((choices.filterMap Choice.pattern?).filter hasContent) c.patterns
  /-- What is accepted, in whichever way it was put together, can be put together again. -/
  again : ∀ c, (made = .ok c ∨ ∃ capacity itemTimeout policy patterns metricsInterval,
      Config.new capacity itemTimeout policy patterns metricsInterval = .ok c) →
    Config.new c.capacity c.itemTimeout c.policy c.patterns c.metricsInterval = .ok c

/-- **Settings of a processor.** It holds of all sequences of choices. -/
theorem make_canonical (choices : List Choice) : Canonical choices (make choices) := by
  have given : ∀ c, make choices = .ok c → ∃ capacity, latest Choice.capacity? choices = some capacity := by
    intro c h
    cases hc : latest Choice.capacity? choices with
    | some capacity => exact ⟨capacity, rfl⟩
    | none =>
      rw [make_of_none hc] at h
      cases h
  refine ⟨make_of_none, fun capacity => make_of_some, ?_, ?_, ?_, ?_, ?_⟩
  · rintro before a b after rfl h
    rw [make, foldl_set_congr (filter_kind_swap h), make]
  · intro choices' h
    rw [make, foldl_set_congr h, make]
  · constructor
    · rintro ⟨c, h⟩
      obtain ⟨capacity, hc⟩ := given c h
      rw [make_of_some hc] at h
      exact ⟨capacity, hc, exists_new_eq_ok_iff.1 ⟨c, h⟩⟩
    · rintro ⟨capacity, hc, valid⟩
      rw [make_of_some hc]
      exact exists_new_eq_ok_iff.2 valid
  · intro c h
    obtain ⟨capacity, hc⟩ := given c h
    rw [make_of_some hc, new_eq_ok_iff] at h
    obtain ⟨-, -, -, patterns, -⟩ := h
    rw [patterns]
    exact forall₂_cleanPatterns _
  · rintro c (h | ⟨capacity, itemTimeout, policy, patterns, metricsInterval, h⟩)
    · obtain ⟨capacity, hc⟩ := given c h
      rw [make_of_some hc] at h
      exact new_of_new_eq_ok h
    · exact new_of_new_eq_ok h

/-- Zeros that are overridden do no harm. The pattern of wide spaces is dropped, and the two
others come to the same text. -/
example : (make [.pattern "  no funds ", .capacity 0, .metricsInterval 0, .pattern "\u2003\u3000", .capacity 2,
    .defaultMetrics, .pattern "no funds"]).map (fun c => (c.capacity, c.itemTimeout, c.patterns, c.metricsInterval)) =
    .ok (2, Span.ofSeconds 10, ["no funds", "no funds"], some (Span.ofSeconds 5)) := by
  rfl

end Draft

end CallGuard.Processor.Config
