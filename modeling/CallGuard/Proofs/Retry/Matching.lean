/-
A failure in which a pattern stands is not worth another try: the run has ended with it, as it
is. Patterns and failures are lower-cased each by itself, so letter case is no obstacle, but a
capital sigma can be one: at the end of a word it has another lower-case letter than within
one, and a pattern that ends there may occur where the word goes on.
-/
import CallGuard.Behaviour
import CallGuard.Proofs.Retry.Results
import CallGuard.Proofs.Text.Case

namespace CallGuard.Retry

open Text (SameLetter StandsIn startsCased)

variable {S ι σ α : Type}

theorem isFinal_of_standsIn {patterns : List String} {f : Failure} {p : String} (hp : p ∈ patterns)
    (stands : StandsIn p.toList f.rendered.toList) : isFinal patterns f = true :=
  List.any_eq_true.2 ⟨p, hp, stands.occursIn_lowercase⟩

/-! ## What a failure that is final does -/

theorem retried_of_mem_tail {job : Job ι} {tries : List (Try α)}
    (chain : tries.IsChain fun u t => Follows job t u) {t : Try α} (ht : t ∈ tries.tail) :
    ∃ e f, t.ending = some (e, .completed (.failure f)) ∧ isFinal job.patterns f = false := by
  induction tries with
  | nil => cases ht
  | cons u tries ih =>
    cases tries with
    | nil => cases ht
    | cons v tries =>
      obtain ⟨follows, chain⟩ := List.isChain_cons_cons.1 chain
      rcases List.mem_cons.1 ht with rfl | ht
      · obtain ⟨e, f, he, hf, -⟩ := follows.paced
        exact ⟨e, f, he, hf⟩
      · exact ih chain ht

section Play

variable {op : Operation S ι σ α} {job : Job ι} {setting : Setting S} {events : List (Event S)}
  {t : Try α} {e : Nat} {f : Failure}

theorem latest_of_final (ht : t ∈ (World.play op job setting events).tries)
    (he : t.ending = some (e, .completed (.failure f))) (hf : isFinal job.patterns f = true) :
    (World.play op job setting events).tries.head? = some t := by
  have chain := (onSchedule_play op job setting events).chain
  cases htries : (World.play op job setting events).tries with
  | nil =>
    rw [htries] at ht
    cases ht
  | cons u tries =>
    rw [htries] at ht chain
    rcases List.mem_cons.1 ht with rfl | ht
    · rfl
    · obtain ⟨e', f', he', hf'⟩ := retried_of_mem_tail chain ht
      rw [he] at he'
      cases he'
      rw [hf] at hf'
      cases hf'

theorem ended_of_final (latest : (World.play op job setting events).tries.head? = some t)
    (he : t.ending = some (e, .completed (.failure f))) (hf : isFinal job.patterns f = true) :
    ∃ outcome, (World.play op job setting events).run.phase = .ended outcome := by
  have stands := (onSchedule_play op job setting events).stands
  generalize (World.play op job setting events).run.phase = phase at stands
  generalize (World.play op job setting events).tries = tries at stands latest
  have again {e' f'} (he' : t.ending = some (e', .completed (.failure f')))
      (hf' : isFinal job.patterns f' = false) : False := by
    rw [he] at he'
    cases he'
    rw [hf] at hf'
    cases hf'
  cases stands with
  | ended => exact ⟨_, rfl⟩
  | first _ _ => cases latest
  | again he' hf' _ _ _ =>
    cases latest
    exact (again he' hf').elim
  | pausing he' hf' _ _ =>
    cases latest
    exact (again he' hf').elim
  | trying open_ _ =>
    cases latest
    rw [he] at open_
    cases open_

theorem returned_of_final (latest : (World.play op job setting events).tries.head? = some t)
    (he : t.ending = some (e, .completed (.failure f))) (hf : isFinal job.patterns f = true) :
    (World.play op job setting events).run.phase = .ended (.failure f) := by
  obtain ⟨outcome, ended⟩ := ended_of_final latest he hf
  obtain ⟨before, after, u, -, last, -, tries⟩ := lastStep_play op job setting events ended
  have stepped := last.ended
  rw [World.play_concat] at stepped
  obtain ⟨t', latest', ends⟩ :=
    World.ends_of_step (onSchedule_play op job setting before) last.going stepped
  obtain rfl : t = t' := by
    rw [tries, World.play_concat] at latest
    exact Option.some.inj (latest.symm.trans latest')
  rw [ended]
  cases ends with
  | value _ he' | panic _ he' =>
    rw [he] at he'
    cases he'
  | final _ he' _ =>
    rw [he] at he'
    cases he'
    rfl
  | cut _ retried =>
    have := retried e f he
    rw [hf] at this
    cases this
  | exhausted _ he' hf' _ _ =>
    rw [he] at he'
    cases he'
    rw [hf] at hf'
    cases hf'

theorem play_append_of_ended {outcome : Outcome α}
    (ended : (World.play op job setting events).run.phase = .ended outcome) (after : List (Event S)) :
    (World.play op job setting (events ++ after)).run = (World.play op job setting events).run ∧
      (World.play op job setting (events ++ after)).tries = (World.play op job setting events).tries := by
  induction after using List.reverseRecOn with
  | nil =>
    rw [List.append_nil]
    exact ⟨rfl, rfl⟩
  | append_singleton after e ih =>
    obtain ⟨run, tries⟩ := ih
    rw [← run] at ended
    rw [← List.append_assoc, World.play_concat]
    exact ⟨(World.apply_of_ended ended e).1.trans run, (World.apply_of_ended ended e).2.trans tries⟩

end Play

/-! ## Patterns -/

/-- After some events a try was the last one: the run has returned its failure as it is, and
whatever happens later it makes no other. -/
structure Settled (op : Operation S ι σ α) (job : Job ι) (setting : Setting S) (events : List (Event S))
    (t : Try α) (f : Failure) : Prop where
  returned : (World.play op job setting events).run.phase = .ended (.failure f)
  latest : (World.play op job setting events).tries.head? = some t
  forGood : ∀ after,
    (World.play op job setting (events ++ after)).run = (World.play op job setting events).run ∧
      (World.play op job setting (events ++ after)).tries = (World.play op job setting events).tries

/-- What a pattern does to a run with a try that failed. -/
structure Matched (op : Operation S ι σ α) (job : Job ι) (setting : Setting S) (events : List (Event S))
    (t : Try α) (f : Failure) (p : String) : Prop where
  /-- If it stands somewhere in the failure's chain of texts up to the case of its letters, no
  other try is made. The letters of that place are the pattern's own, upper or lower case, and
  a capital sigma on either side has the same lower-case letter in the pattern as there. -/
  stands : StandsIn p.toList f.rendered.toList → Settled op job setting events t f
  /-- Capital sigmas apart, it is enough that the letters are the same. -/
  letters : ∀ front place back, f.rendered.toList = front ++ (place ++ back) →
    List.Forall₂ SameLetter p.toList place → 'Σ' ∉ p.toList → 'Σ' ∉ place →
      Settled op job setting events t f
  /-- Or that it occurs verbatim. -/
  verbatim : p.toList <:+: f.rendered.toList → 'Σ' ∉ p.toList → Settled op job setting events t f
  /-- With capital sigmas, it is enough that it occurs verbatim as whole words. -/
  words : ∀ front back, f.rendered.toList = front ++ (p.toList ++ back) →
    startsCased front.reverse = false → startsCased back = false → Settled op job setting events t f

/-- **A pattern that stands in a failure stops the retries.** Of every run and every try in it
that failed. -/
theorem play_matched (op : Operation S ι σ α) (job : Job ι) (setting : Setting S)
    (events : List (Event S)) :
    ∀ t ∈ (World.play op job setting events).tries, ∀ e f,
      t.ending = some (e, .completed (.failure f)) → ∀ p ∈ job.patterns,
        Matched op job setting events t f p := by
  intro t ht e f he p hp
  have settled (stands : StandsIn p.toList f.rendered.toList) : Settled op job setting events t f := by
    have hf := isFinal_of_standsIn hp stands
    have latest := latest_of_final ht he hf
    have returned := returned_of_final latest he hf
    exact ⟨returned, latest, play_append_of_ended returned⟩
  exact
    { stands := settled
      letters := fun front place back hr same hp hq => settled (hr ▸ .of_letters same hp hq front back)
      verbatim := fun occurs hp => settled (.of_occurs occurs hp)
      words := fun front back hr hf hb => settled (hr ▸ .of_words hf hb) }

/-- A pattern stands in the last letters of one text of a failure and the first ones of the next,
in other case. -/
theorem settled_across_texts :
    let f : Failure := .context "Record Lost" (.plain "Not Found")
    let op : Operation Unit Unit (Scope × Activity Nat) Nat :=
      .scripted (fun _ _ => .finish (.failure f)) (fun _ _ s => s) (fun _ s => s)
    let job : Job Unit := ⟨(), ⟨⟨0, []⟩, none⟩, .new (Span.ofSeconds 30) 0 0 0, ["LOST: NOT"], 0⟩
    let t : Try Nat := ⟨0, 0, none, true, some (0, .completed (.failure f))⟩
    t ∈ (World.play op job ⟨.empty, [], ()⟩ [.step]).tries ∧
      Settled op job ⟨.empty, [], ()⟩ [.step] t f := by
  intro f op job t
  have tried : t ∈ (World.play op job ⟨.empty, [], ()⟩ [.step]).tries := List.mem_cons_self
  have matched := play_matched op job ⟨.empty, [], ()⟩ [.step] t tried 0 f rfl "LOST: NOT" List.mem_cons_self
  exact ⟨tried, matched.letters "Record ".toList "Lost: Not".toList " Found".toList (by decide +kernel)
    (by decide +kernel) (by decide +kernel) (by decide +kernel)⟩

/-- A pattern that ends in a capital sigma occurs verbatim in the failure of a first try, where the
word goes on. A second try is made all the same. -/
theorem retried_within_word :
    let op : Operation Unit Unit (Scope × Activity Nat) Nat :=
      .scripted (fun _ n => .finish (if n = 1 then .failure (.plain "ΠΡΟΣΒΑΣΗ") else .value 1))
        (fun _ _ s => s) (fun _ s => s)
    let job : Job Unit := ⟨(), ⟨⟨0, []⟩, none⟩, .new (Span.ofSeconds 30) 0 0 0, ["ΠΡΟΣ"], 0⟩
    let w := World.play op job ⟨.empty, [], ()⟩ [.step, .step, .step]
    "ΠΡΟΣ".toList <:+: (Failure.plain "ΠΡΟΣΒΑΣΗ").rendered.toList ∧ w.tries.length = 2 ∧
      w.run.outcome? = some (.value 1) := by
  decide +kernel

end CallGuard.Retry
