/-
What a breaker counts, told from its history (`Told`), and from that when it
changes its state (`Turns`).
-/
import CallGuard.Proofs.Breaker.History

namespace CallGuard.Breaker

theorem Record.goesOn_of_stayed {r : Record} (hs : r.stayed = true) (ht : r.touch ≠ .succeed) :
    r.goesOn = true := by
  simp only [goesOn, hs, isSuccess, beq_false_of_ne ht, Bool.false_and, Bool.not_false, Bool.and_self]

namespace History

variable (r : Record) (h : History)

theorem inState_cons : inState (r :: h) = if r.stayed then r :: h.inState else [] := by
  simp only [inState, List.takeWhile_cons]

theorem uninterrupted_cons : uninterrupted (r :: h) = if r.goesOn then r :: h.uninterrupted else [] := by
  simp only [uninterrupted, List.takeWhile_cons]

theorem failures_cons : failures (r :: h) = h.failures + if r.isFailure then 1 else 0 := by
  simp only [failures, List.countP_cons]

theorem successes_cons : successes (r :: h) = h.successes + if r.isSuccess then 1 else 0 := by
  simp only [successes, List.countP_cons]

theorem lastFailure_cons : lastFailure (r :: h) = (r.failedAt? <|> h.lastFailure) := by
  unfold lastFailure
  rw [List.findSome?_cons]
  cases r.failedAt? <;> rfl

end History

/-- The breaker is as its history tells. -/
structure Told (b : Breaker) (h : History) : Prop where
  closed : b.state = .closed →
    b.failures = h.uninterrupted.failures ∧ b.failures < b.threshold ∧ b.successes = 0
  halfOpen : b.state = .halfOpen →
    b.failures = 0 ∧ b.successes = h.inState.successes ∧ b.successes ≤ 1
  opened : b.state = .opened →
    b.failures = Word.clamp h.inState.failures ∧ b.successes = 0 ∧ b.lastFailure.isSome = true
  lastFailure : b.lastFailure = h.lastFailure

namespace Told

variable {b : Breaker} {h : History}

theorem new (threshold resetTimeout : Nat) : Told (Breaker.new threshold resetTimeout) [] where
  closed _ := ⟨rfl, (Breaker.new threshold resetTimeout).threshold_pos, rfl⟩
  halfOpen := nofun
  opened := nofun
  lastFailure := rfl

theorem of_closed (hs : b.state = .closed)
    (counts : b.failures = h.uninterrupted.failures ∧ b.failures < b.threshold ∧ b.successes = 0)
    (last : b.lastFailure = h.lastFailure) : Told b h where
  closed _ := counts
  halfOpen he := by
    rw [hs] at he
    cases he
  opened he := by
    rw [hs] at he
    cases he
  lastFailure := last

theorem of_halfOpen (hs : b.state = .halfOpen)
    (counts : b.failures = 0 ∧ b.successes = h.inState.successes ∧ b.successes ≤ 1)
    (last : b.lastFailure = h.lastFailure) : Told b h where
  closed he := by
    rw [hs] at he
    cases he
  halfOpen _ := counts
  opened he := by
    rw [hs] at he
    cases he
  lastFailure := last

theorem of_opened (hs : b.state = .opened)
    (counts : b.failures = Word.clamp h.inState.failures ∧ b.successes = 0 ∧ b.lastFailure.isSome = true)
    (last : b.lastFailure = h.lastFailure) : Told b h where
  closed he := by
    rw [hs] at he
    cases he
  halfOpen he := by
    rw [hs] at he
    cases he
  opened _ := counts
  lastFailure := last

theorem asked (ht : Told b h) (now : Nat) : Told b (⟨.ask now, b.state, b.state⟩ :: h) := by
  have stayed : (⟨.ask now, b.state, b.state⟩ : Record).stayed = true := beq_self_eq_true _
  have goesOn : (⟨.ask now, b.state, b.state⟩ : Record).goesOn = true :=
    Record.goesOn_of_stayed stayed nofun
  exact
    { closed := fun hs => by
        rw [History.uninterrupted_cons, if_pos goesOn, History.failures_cons]
        exact ht.closed hs
      halfOpen := fun hs => by
        rw [History.inState_cons, if_pos stayed, History.successes_cons]
        exact ht.halfOpen hs
      opened := fun hs => by
        rw [History.inState_cons, if_pos stayed, History.failures_cons]
        exact ht.opened hs
      lastFailure := ht.lastFailure }

/-- To enter another state is to start counting afresh. -/
theorem turned (ht : Told b h) (t : Touch) {next : CircuitState} {last : Option Nat}
    (hn : b.state ≠ next) (hl : last = ((⟨t, b.state, next⟩ : Record).failedAt? <|> b.lastFailure))
    (ho : next = .opened → last.isSome = true) :
    Told { b with state := next, failures := 0, successes := 0, lastFailure := last }
      (⟨t, b.state, next⟩ :: h) := by
  have stayed : ¬ (⟨t, b.state, next⟩ : Record).stayed = true := fun he => hn (beq_iff_eq.1 he)
  have goesOn : ¬ (⟨t, b.state, next⟩ : Record).goesOn = true := fun he =>
    stayed (Bool.and_eq_true_iff.1 he).1
  exact
    { closed := fun _ => by
        rw [History.uninterrupted_cons, if_neg goesOn]
        exact ⟨rfl, b.threshold_pos, rfl⟩
      halfOpen := fun _ => by
        rw [History.inState_cons, if_neg stayed]
        exact ⟨rfl, rfl, Nat.zero_le _⟩
      opened := fun hs => by
        rw [History.inState_cons, if_neg stayed]
        exact ⟨rfl, rfl, ho hs⟩
      lastFailure := by
        rw [History.lastFailure_cons, ← ht.lastFailure]
        exact hl }

theorem failed_closed (ht : Told b h) (hs : b.state = .closed) (now : Nat)
    (fits : b.threshold ≤ Word.last) :
    Told (b.touch (.fail now)) (⟨.fail now, b.state, (b.touch (.fail now)).state⟩ :: h) := by
  obtain ⟨hf, hlt, hz⟩ := ht.closed hs
  have count : Word.clamp (b.failures + 1) = b.failures + 1 := Word.clamp_of_le (by omega)
  rw [touch_fail_closed hs, count]
  split
  · exact ht.turned _ (by rw [hs]; decide) rfl fun _ => rfl
  · rename_i below
    have goesOn : (⟨.fail now, b.state, b.state⟩ : Record).goesOn = true := by
      refine Record.goesOn_of_stayed (beq_self_eq_true _) ?_
      intro he
      cases he
    refine .of_closed hs ?_ rfl
    rw [History.uninterrupted_cons, if_pos goesOn, History.failures_cons, ← hf]
    exact ⟨rfl, Nat.lt_of_not_le below, hz⟩

theorem succeeded_closed (ht : Told b h) (hs : b.state = .closed) :
    Told (b.touch .succeed) (⟨.succeed, b.state, (b.touch .succeed).state⟩ :: h) := by
  rw [touch_succeed_closed hs]
  have goesOn : ¬ (⟨.succeed, b.state, b.state⟩ : Record).goesOn = true := by
    rw [hs]
    exact Bool.false_ne_true
  refine .of_closed hs ?_ ht.lastFailure
  rw [History.uninterrupted_cons, if_neg goesOn]
  exact ⟨rfl, b.threshold_pos, (ht.closed hs).2.2⟩

theorem succeeded_halfOpen (ht : Told b h) (hs : b.state = .halfOpen) :
    Told (b.touch .succeed) (⟨.succeed, b.state, (b.touch .succeed).state⟩ :: h) := by
  obtain ⟨hf, hn, hle⟩ := ht.halfOpen hs
  rw [touch_succeed_halfOpen hs]
  split
  · exact ht.turned _ (by rw [hs]; decide) rfl fun he => by cases he
  · rename_i below
    have stayed : (⟨.succeed, b.state, b.state⟩ : Record).stayed = true := beq_self_eq_true _
    refine .of_halfOpen hs ?_ ht.lastFailure
    rw [History.inState_cons, if_pos stayed, History.successes_cons, ← hn]
    exact ⟨hf, rfl, Nat.le_of_lt_succ (Nat.lt_of_not_le below)⟩

theorem touched_opened (ht : Told b h) (hs : b.state = .opened) (t : Touch) :
    Told (b.touch t) (⟨t, b.state, (b.touch t).state⟩ :: h) := by
  obtain ⟨hf, hz, hl⟩ := ht.opened hs
  have stayed : (⟨t, b.state, b.state⟩ : Record).stayed = true := beq_self_eq_true _
  cases t with
  | ask now =>
    rw [touch_ask_opened hs]
    split
    · exact ht.turned _ (by rw [hs]; decide) rfl fun he => by cases he
    · exact ht.asked now
  | succeed =>
    rw [touch_succeed_opened hs]
    refine .of_opened hs ?_ ht.lastFailure
    rw [History.inState_cons, if_pos stayed, History.failures_cons]
    exact ⟨hf, hz, hl⟩
  | fail now =>
    rw [touch_fail_opened hs]
    have more : Word.clamp (b.failures + 1) = Word.clamp (h.inState.failures + 1) := by
      rw [hf]
      unfold Word.clamp
      omega
    refine .of_opened hs ?_ rfl
    rw [History.inState_cons, if_pos stayed, History.failures_cons]
    exact ⟨more, hz, rfl⟩

/-- **One more use keeps the breaker as its history tells.** -/
theorem touched (ht : Told b h) (fits : b.threshold ≤ Word.last) (t : Touch) :
    Told (b.touch t) (⟨t, b.state, (b.touch t).state⟩ :: h) := by
  cases hs : b.state with
  | opened => exact hs ▸ ht.touched_opened hs t
  | closed =>
    rw [← hs]
    cases t with
    | ask now =>
      rw [touch_ask_closed hs]
      exact ht.asked now
    | succeed => exact ht.succeeded_closed hs
    | fail now => exact ht.failed_closed hs now fits
  | halfOpen =>
    rw [← hs]
    cases t with
    | ask now =>
      rw [touch_ask_halfOpen hs]
      exact ht.asked now
    | succeed => exact ht.succeeded_halfOpen hs
    | fail now =>
      rw [touch_fail_halfOpen hs]
      exact ht.turned _ (by rw [hs]; decide) rfl fun _ => rfl

end Told

/-! ## When the state changes -/

/-- To what states the next use of a breaker leads. -/
structure Turns (b : Breaker) (h : History) : Prop where
  /-- Only an open breaker is turned by being asked, once it has cooled down. -/
  ask : ∀ now, (b.touch (.ask now)).state =
    if b.state = .opened ∧ ∃ failedAt, h.lastFailure = some failedAt ∧ b.resetTimeout < now - failedAt
    then .halfOpen else b.state
  /-- Only a half-open breaker is turned by a success, by the second in this state. -/
  succeed : (b.touch .succeed).state =
    if b.state = .halfOpen ∧ h.inState.successes + 1 = 2 then .closed else b.state
  /-- A closed breaker opens at the failure that makes as many in a row as its
  threshold, and a half-open one at any. -/
  fail : ∀ now, (b.touch (.fail now)).state =
    if b.state = .closed ∧ h.uninterrupted.failures + 1 ≠ b.threshold then .closed else .opened

theorem Told.cooled_iff {b : Breaker} {h : History} (ht : Told b h) (hs : b.state = .opened)
    (now : Nat) : b.cooled now = true ↔
      ∃ failedAt, h.lastFailure = some failedAt ∧ b.resetTimeout < now - failedAt := by
  obtain ⟨failedAt, hl⟩ := Option.isSome_iff_exists.1 (ht.opened hs).2.2
  rw [← ht.lastFailure, hl]
  simp only [cooled, hl, decide_eq_true_eq, Option.some.injEq, exists_eq_left']

theorem Told.turns {b : Breaker} {h : History} (ht : Told b h) (fits : b.threshold ≤ Word.last) :
    Turns b h := by
  cases hs : b.state with
  | closed =>
    obtain ⟨hf, hlt, -⟩ := ht.closed hs
    have count : Word.clamp (b.failures + 1) = b.failures + 1 := Word.clamp_of_le (by omega)
    exact
      { ask := fun now => by
          rw [touch_ask_closed hs, hs, if_neg fun he => nomatch he.1]
        succeed := by
          rw [touch_succeed_closed hs, hs, if_neg fun he => nomatch he.1]
        fail := fun now => by
          rw [touch_fail_closed hs, count, ← hf, hs]
          by_cases opens : b.threshold ≤ b.failures + 1
          · rw [if_pos opens, if_neg (by omega)]
          · rw [if_neg opens, if_pos ⟨rfl, by omega⟩] }
  | halfOpen =>
    obtain ⟨-, hn, hle⟩ := ht.halfOpen hs
    exact
      { ask := fun now => by
          rw [touch_ask_halfOpen hs, hs, if_neg fun he => nomatch he.1]
        succeed := by
          rw [touch_succeed_halfOpen hs, ← hn, hs]
          by_cases closes : probesToClose ≤ b.successes + 1
          · rw [if_pos closes, if_pos ⟨rfl, by unfold probesToClose at closes; omega⟩]
          · rw [if_neg closes, if_neg fun he => closes (Nat.le_of_eq he.2.symm)]
        fail := fun now => by
          rw [touch_fail_halfOpen hs, hs, if_neg fun he => nomatch he.1] }
  | opened =>
    exact
      { ask := fun now => by
          rw [touch_ask_opened hs]
          by_cases cooled : b.cooled now = true
          · rw [if_pos cooled, if_pos ⟨hs, (ht.cooled_iff hs now).1 cooled⟩]
          · rw [if_neg cooled, if_neg fun he => cooled ((ht.cooled_iff hs now).2 he.2)]
        succeed := by
          rw [touch_succeed_opened hs, hs, if_neg fun he => nomatch he.1]
        fail := fun now => by
          rw [touch_fail_opened hs, hs, if_neg fun he => nomatch he.1] }

/-! ## Any uses, in any order -/

theorem replay_settings (b : Breaker) (touches : List Touch) :
    (b.replay touches).1.threshold = b.threshold ∧
      (b.replay touches).1.resetTimeout = b.resetTimeout := by
  induction touches using List.reverseRecOn with
  | nil => exact ⟨rfl, rfl⟩
  | append_singleton touches t ih =>
    rw [replay_concat]
    obtain ⟨ht, hr⟩ := touch_settings (b.replay touches).1 t
    exact ⟨ht.trans ih.1, hr.trans ih.2⟩

theorem told_replay {b : Breaker} (start : Told b []) (fits : b.threshold ≤ Word.last)
    (touches : List Touch) : Told (b.replay touches).1 (b.replay touches).2 := by
  induction touches using List.reverseRecOn with
  | nil => exact start
  | append_singleton touches t ih =>
    rw [replay_concat]
    exact ih.touched (by rw [(b.replay_settings touches).1]; exact fits) t

end CallGuard.Breaker
