/-
How long a scope may last. On the way from a root to a scope timeouts are set, each at an
instant of its own, on the scope itself or on one that it inherits from. Its deadline is the
first of the instants that they come to. A timeout beyond the end of the clock comes to
none, and takes nothing away from the others.
-/
import CallGuard.Proofs.Moments
import CallGuard.Proofs.Scope.Inheritance
import Mathlib.Order.Bounds.Basic

namespace CallGuard

/-! ## The first of some instants -/

/-- The first of a set of instants, if there are any. -/
structure Earliest (dues : Set Nat) (first : Option Nat) : Prop where
  among : ∀ due, first = some due → due ∈ dues
  reached : ∀ due ∈ dues, ∃ d, first = some d ∧ d ≤ due

namespace Earliest

variable {dues dues' : Set Nat} {first first' : Option Nat}

theorem eq_some_iff (h : Earliest dues first) {due : Nat} : first = some due ↔ IsLeast dues due := by
  constructor
  · intro hf
    refine ⟨h.among due hf, ?_⟩
    intro other hother
    obtain ⟨d, hd, le⟩ := h.reached other hother
    rw [hf] at hd
    cases hd
    exact le
  · intro ⟨mem, least⟩
    obtain ⟨d, hd, le⟩ := h.reached due mem
    have same : d = due := Nat.le_antisymm le (least (h.among d hd))
    rw [hd, same]

theorem eq_none_iff (h : Earliest dues first) : first = none ↔ ∀ due, due ∉ dues := by
  constructor
  · intro hf due hdue
    obtain ⟨d, hd, -⟩ := h.reached due hdue
    rw [hf] at hd
    cases hd
  · intro empty
    cases hf : first with
    | none => rfl
    | some due => exact absurd (h.among due hf) (empty due)

theorem le_of_subset (h : Earliest dues first) (h' : Earliest dues' first') (sub : dues ⊆ dues') {due : Nat}
    (hf : first = some due) : ∃ due', first' = some due' ∧ due' ≤ due :=
  h'.reached due (sub (h.among due hf))

theorem of_option (o : Option Nat) : Earliest {due | o = some due} o :=
  ⟨fun _ h => h, fun due h => ⟨due, h, Nat.le_refl due⟩⟩

theorem union (h : Earliest dues first) (h' : Earliest dues' first') :
    Earliest (dues ∪ dues') (earlier first first') := by
  constructor
  · intro due hdue
    cases first with
    | none => exact .inr (h'.among due hdue)
    | some a =>
      cases first' with
      | none => exact .inl (h.among due hdue)
      | some b =>
        cases hdue
        by_cases le : a ≤ b
        · rw [Nat.min_eq_left le]
          exact .inl (h.among a rfl)
        · rw [Nat.min_eq_right (by omega)]
          exact .inr (h'.among b rfl)
  · rintro due (hdue | hdue)
    · obtain ⟨d, hd, le⟩ := h.reached due hdue
      obtain ⟨d', hd', le'⟩ := earlier_le (b := first') (.inl hd)
      exact ⟨d', hd', Nat.le_trans le' le⟩
    · obtain ⟨d, hd, le⟩ := h'.reached due hdue
      obtain ⟨d', hd', le'⟩ := earlier_le (a := first) (.inr hd)
      exact ⟨d', hd', Nat.le_trans le' le⟩

end Earliest

namespace Scope

theorem Family.Below.le {l : Family} (older : l.Older) {k a : Nat} (h : l.Below k a) : a ≤ k := by
  induction h using Relation.ReflTransGen.head_induction_on with
  | refl => exact Nat.le_refl a
  | head step _ ih =>
    have := older _ _ step
    omega

namespace Forest

/-! ## Timeouts -/

/-- An event makes the scope of number `k`, with a timeout of `d` at the instant `t`. -/
def Sets (f : Forest) (e : Event) (k t d : Nat) : Prop :=
  ∃ i, e = .timeout i d ∧ i < f.scopes.length ∧ f.scopes.length = k ∧ f.now = t

/-- So it is at some moment of a run. -/
def HasSet (events : List Event) (k t d : Nat) : Prop :=
  ∃ before e after, events = before ++ e :: after ∧ Sets (play before) e k t d

/-- A timeout of `d` was set at the instant `t` on the way from a root to a scope. -/
def Under (events : List Event) (j t d : Nat) : Prop :=
  ∃ k, (play events).lineage.Below j k ∧ HasSet events k t d

/-- The instants that the timeouts of a scope come to. -/
def dues (events : List Event) (j : Nat) : Set Nat :=
  {due | ∃ t d, Under events j t d ∧ t + d < Instant.limit ∧ due = t + d}

variable {f f' : Forest} {e : Event} {events : List Event} {j k t d : Nat}

theorem hasSet_concat : HasSet (events ++ [e]) k t d ↔ HasSet events k t d ∨ Sets (play events) e k t d :=
  exists_split_concat

/-! ## What an event does to deadlines -/

/-- The instant that the timeout of an event comes to, if it sets one. -/
def due? (now : Nat) : Event → Option Nat
  | .timeout _ d => Instant.after? now d
  | _ => none

/-- The deadline that a scope takes over from the one it inherits from, if there is one. -/
def handedOn (f : Forest) (source : Option Nat) : Option Nat :=
  source.bind fun i => f.scopes[i]?.bind Scope.deadline

/-- What an event does to the scopes: there is one more, or none. A new scope has the deadline
of its source, cut short by the timeout that is set on it. -/
inductive Grown (f : Forest) (e : Event) : Forest → Prop
  | same {f' : Forest} : f'.scopes = f.scopes → f'.lineage = f.lineage → (∀ k t d, ¬ Sets f e k t d) →
      Grown f e f'
  | more {x : Scope} {signals : Signals} {tokens : Family} {source : Option Nat} :
      (∀ i, source = some i → i < f.scopes.length) → (∀ i d, e = .timeout i d → i < f.scopes.length) →
      x.deadline = earlier (f.handedOn source) (due? f.now e) → Grown f e (f.add (x, signals) tokens source)

theorem Grown.of_withScope {i : Nat} {act : Scope → Forest} (own : ∀ i' d, e = .timeout i' d → i' = i)
    (h : ∀ x, f.scopes[i]? = some x → Grown f e (act x)) : Grown f e (f.withScope i act) := by
  unfold withScope
  cases hx : f.scopes[i]? with
  | some x => exact h x hx
  | none =>
    refine .same rfl rfl ?_
    rintro k t d ⟨i', he, inside, -⟩
    rw [own i' d he] at inside
    rw [List.getElem?_eq_none_iff] at hx
    omega

theorem Grown.of_apply (f : Forest) (e : Event) : Grown f e (f.apply e) := by
  cases e with
  | new | wrapFresh => exact .more (by simp) (by simp) rfl
  | wrap i | wrapBelow i => exact .of_withScope (by simp) fun x _ => .more (by simp) (by simp) rfl
  | clone i | child i =>
    refine .of_withScope (by simp) fun x hx => .more ?_ (by simp) ?_
    · intro i' hi
      cases hi
      exact (List.getElem?_eq_some_iff.1 hx).1
    · simp [handedOn, hx, due?, earlier_none]
  | timeout i d =>
    refine .of_withScope (by simp) fun x hx => ?_
    have inside : i < f.scopes.length := (List.getElem?_eq_some_iff.1 hx).1
    refine .more ?_ ?_ ?_
    · intro i' hi
      cases hi
      exact inside
    · intro i' d' he
      cases he
      exact inside
    · simp [handedOn, hx, due?]
  | cancel i =>
    simp only [apply, withScope]
    cases f.scopes[i]? <;> exact .same rfl rfl (by simp [Sets])
  | pass d => exact .same rfl rfl (by simp [Sets])

theorem due?_eq_some_iff {now due : Nat} : due? now e = some due ↔
    ∃ i d, e = .timeout i d ∧ now + d < Instant.limit ∧ due = now + d := by
  cases e with
  | timeout i d =>
    constructor
    · intro h
      obtain ⟨rfl, reached⟩ := Instant.after?_eq_some h
      exact ⟨i, d, rfl, reached, rfl⟩
    · rintro ⟨i', d', he, reached, rfl⟩
      cases he
      exact if_pos reached
  | _ => simp [due?]

/-! ## Timeouts in a run that goes on -/

theorem grown_play (events : List Event) (e : Event) : Grown (play events) e (play (events ++ [e])) := by
  rw [play_concat]
  exact .of_apply _ e

theorem older_play (events : List Event) : (play events).lineage.Older := by
  induction events using List.reverseRecOn with
  | nil =>
    intro k p h
    cases h
  | append_singleton events e ih =>
    have g := grown_play events e
    generalize play (events ++ [e]) = f' at g
    cases g with
    | same scopes lineage unset =>
      rw [lineage]
      exact ih
    | more inside own deadline => exact ih.concat ((Rooted.play events).counted ▸ inside)

theorem lt_of_hasSet (h : HasSet events k t d) : k < (play events).scopes.length := by
  induction events using List.reverseRecOn with
  | nil =>
    obtain ⟨before, e, after, split, -⟩ := h
    simp at split
  | append_singleton events e ih =>
    have g := grown_play events e
    generalize play (events ++ [e]) = f' at g
    cases g with
    | same scopes lineage unset =>
      rw [scopes]
      rcases hasSet_concat.1 h with old | new
      · exact ih old
      · exact absurd new (unset k t d)
    | more inside own deadline =>
      simp only [add, List.length_append, List.length_singleton]
      rcases hasSet_concat.1 h with old | ⟨i, -, -, hk, -⟩
      · have := ih old
        omega
      · omega

theorem hasSet_concat_of_lt (h : k < (play events).scopes.length) :
    HasSet (events ++ [e]) k t d ↔ HasSet events k t d := by
  rw [hasSet_concat]
  constructor
  · rintro (old | ⟨i, -, -, hk, -⟩)
    · exact old
    · omega
  · exact .inl

theorem dues_concat_old {l : Family} (grown : (play (events ++ [e])).lineage = (play events).lineage ++ l)
    (inside : j < (play events).scopes.length) : dues (events ++ [e]) j = dues events j := by
  ext due
  have older := older_play events
  have below (k : Nat) : (play (events ++ [e])).lineage.Below j k ↔ (play events).lineage.Below j k := by
    rw [grown]
    exact Family.below_append older ((Rooted.play events).counted ▸ inside)
  constructor
  · rintro ⟨t, d, ⟨k, hk, hset⟩, reached, rfl⟩
    rw [below] at hk
    -- what a scope inherits from is no later than it, and so not the new one
    have := hk.le older
    rw [hasSet_concat_of_lt (by omega)] at hset
    exact ⟨t, d, ⟨k, hk, hset⟩, reached, rfl⟩
  · rintro ⟨t, d, ⟨k, hk, hset⟩, reached, rfl⟩
    exact ⟨t, d, ⟨k, (below k).2 hk, hasSet_concat.2 (.inl hset)⟩, reached, rfl⟩

/-- A new scope is under the timeouts of its source, and under the one that is set on it. -/
theorem dues_concat_new {source : Option Nat}
    (grown : (play (events ++ [e])).lineage = (play events).lineage ++ [source])
    (inside : ∀ i, source = some i → i < (play events).scopes.length)
    (own : ∀ i d, e = .timeout i d → i < (play events).scopes.length) :
    dues (events ++ [e]) (play events).scopes.length =
      {due | ∃ i, source = some i ∧ due ∈ dues events i} ∪ {due | due? (play events).now e = some due} := by
  ext due
  have older := older_play events
  have below (k : Nat) : (play (events ++ [e])).lineage.Below (play events).scopes.length k ↔
      k = (play events).scopes.length ∨ ∃ i, source = some i ∧ (play events).lineage.Below i k := by
    rw [grown, ← (Rooted.play events).counted]
    exact Family.below_concat older ((Rooted.play events).counted ▸ inside)
  constructor
  · rintro ⟨t, d, ⟨k, hk, hset⟩, reached, rfl⟩
    rcases (below k).1 hk with rfl | ⟨i, hi, hk⟩
    · rcases hasSet_concat.1 hset with old | ⟨i, he, -, -, rfl⟩
      · exact absurd (lt_of_hasSet old) (Nat.lt_irrefl _)
      · exact .inr (due?_eq_some_iff.2 ⟨i, d, he, reached, rfl⟩)
    · have := hk.le older
      have := inside i hi
      rw [hasSet_concat_of_lt (by omega)] at hset
      exact .inl ⟨i, hi, t, d, ⟨k, hk, hset⟩, reached, rfl⟩
  · rintro (⟨i, hi, t, d, ⟨k, hk, hset⟩, reached, rfl⟩ | hdue)
    · exact ⟨t, d, ⟨k, (below k).2 (.inr ⟨i, hi, hk⟩), hasSet_concat.2 (.inl hset)⟩, reached, rfl⟩
    · obtain ⟨i, d, he, reached, rfl⟩ := due?_eq_some_iff.1 hdue
      have hset : HasSet (events ++ [e]) (play events).scopes.length (play events).now d :=
        hasSet_concat.2 (.inr ⟨i, he, own i d he, rfl, rfl⟩)
      exact ⟨_, d, ⟨_, (below _).2 (.inl rfl), hset⟩, reached, rfl⟩

/-! ## Every run -/

/-- Each deadline is the first of what the timeouts come to. -/
def Dated (events : List Event) : Prop :=
  ∀ (j : Nat) (x : Scope), (play events).scopes[j]? = some x → Earliest (dues events j) x.deadline

theorem Dated.handedOn (h : Dated events) {source : Option Nat}
    (inside : ∀ i, source = some i → i < (play events).scopes.length) :
    Earliest {due | ∃ i, source = some i ∧ due ∈ dues events i} ((play events).handedOn source) := by
  cases source with
  | none => exact ⟨nofun, by rintro due ⟨i, hi, -⟩; cases hi⟩
  | some i =>
    have hx := List.getElem?_eq_getElem (inside i rfl)
    have own := h i _ hx
    simp only [Forest.handedOn, Option.bind_some, hx]
    constructor
    · intro due hdue
      exact ⟨i, rfl, own.among due hdue⟩
    · rintro due ⟨i', hi, hdue⟩
      cases hi
      exact own.reached due hdue

theorem Dated.concat (h : Dated events) (e : Event) : Dated (events ++ [e]) := by
  intro j x hx
  have g := grown_play events e
  generalize hf : play (events ++ [e]) = f' at g hx
  cases g with
  | same scopes lineage unset =>
    rw [scopes] at hx
    have inside : j < (play events).scopes.length := (List.getElem?_eq_some_iff.1 hx).1
    have kept : dues (events ++ [e]) j = dues events j :=
      dues_concat_old (l := []) (by rw [hf, lineage, List.append_nil]) inside
    rw [kept]
    exact h j x hx
  | @more y signals tokens source inside own deadline =>
    have grown : (play (events ++ [e])).lineage = (play events).lineage ++ [source] := by
      rw [hf]
      rfl
    have hx : ((play events).scopes ++ [y])[j]? = some x := hx
    rcases Nat.lt_or_ge j (play events).scopes.length with old | new
    · rw [dues_concat_old grown old]
      exact h j x ((List.getElem?_append_left old).symm.trans hx)
    · have last : j = (play events).scopes.length := by
        have bound := (List.getElem?_eq_some_iff.1 hx).1
        simp only [List.length_append, List.length_singleton] at bound
        omega
      subst last
      rw [List.getElem?_concat_length] at hx
      cases hx
      rw [dues_concat_new grown inside own, deadline]
      exact (h.handedOn inside).union (.of_option _)

theorem dated_play (events : List Event) : Dated events := by
  induction events using List.reverseRecOn with
  | nil => exact nofun
  | append_singleton events e ih => exact ih.concat e

/-- The law of deadlines in the course of a run. -/
structure Limited (events : List Event) (f : Forest) : Prop where
  /-- The deadline of a scope is the first of the instants that its timeouts come to. -/
  least : ∀ (j : Nat) (x : Scope), f.scopes[j]? = some x → ∀ due, x.deadline = some due ↔
    IsLeast (dues events j) due
  /-- A scope has no deadline exactly if all its timeouts go beyond the end of the clock. -/
  never : ∀ (j : Nat) (x : Scope), f.scopes[j]? = some x →
    (x.deadline = none ↔ ∀ t d, Under events j t d → Instant.limit ≤ t + d)
  /-- What inherits from a scope, over any number of scopes in between, has no later deadline. -/
  tightened : ∀ (i j : Nat) (x y : Scope), f.scopes[i]? = some x → f.scopes[j]? = some y →
    f.lineage.Below j i → ∀ due, x.deadline = some due → ∃ due', y.deadline = some due' ∧ due' ≤ due

/-- **The deadline of a scope.** It holds of all scopes that come up in a run, in whatever
order they are made and timeouts are set, however long these are. -/
theorem play_limited (events : List Event) : Limited events (play events) := by
  have dated := dated_play events
  refine ⟨?_, ?_, ?_⟩
  · intro j x hx due
    exact (dated j x hx).eq_some_iff
  · intro j x hx
    rw [(dated j x hx).eq_none_iff]
    constructor
    · intro empty t d under
      by_contra reached
      exact empty (t + d) ⟨t, d, under, by omega, rfl⟩
    · rintro beyond due ⟨t, d, under, reached, rfl⟩
      have := beyond t d under
      omega
  · intro i j x y hx hy below due hdue
    have sub : dues events i ⊆ dues events j := by
      rintro due ⟨t, d, ⟨k, hk, hset⟩, reached, rfl⟩
      exact ⟨t, d, ⟨k, below.trans hk, hset⟩, reached, rfl⟩
    exact (dated i x hx).le_of_subset (dated j y hy) sub hdue

/-- Timeouts beyond the end of the clock leave what is handed on as it is. -/
example : (play [.new, .timeout 0 Span.longest, .pass 7, .timeout 1 5, .pass 3, .timeout 2 Span.longest,
    .clone 3, .timeout 4 1, .timeout 4 60]).scopes.map (·.deadline) =
    [none, none, some 12, some 12, some 12, some 11, some 12] := by
  decide

end Forest

end Scope

end CallGuard
