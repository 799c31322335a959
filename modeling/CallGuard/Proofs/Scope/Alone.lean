/-
One call of an operation by itself, over time: it makes its steps, the clock moves on, and
everything around it may change. A run is any list of these events. In a prompt run no time
passes while the call could go on, and the clock does not pass by the millisecond in which a
wait of the call is over.

Some calls end with the first of some scopes to end (`Heeds`). In a prompt run such a call
does so at the first instant at which one of them has ended (`earlier_play`), which for a
deadline is the millisecond of its timer (`within_play`).
-/
import CallGuard.Proofs.Scope.End
import Mathlib.Data.List.Induction

namespace CallGuard

variable {S ι σ α : Type}

/-- The states that a call within a scope can come to. -/
inductive Operation.Reaches (op : Operation S ι σ α) (scope : Scope) : σ → Prop
  | start {request n now w w' s} : op.start request n scope now w = (w', .waiting s) →
      Reaches op scope s
  | resume {now s w w' s'} : Reaches op scope s → op.resume now s w = some (w', .waiting s') →
      Reaches op scope s'

namespace Scope

variable {s : Signals} {now : Nat} {xs : List Scope} {k : Nat} {reason : ScopeEnd}

/-- The first of some scopes that has ended: its place among them, and why it ended. -/
def firstEnded? (s : Signals) (now : Nat) : List Scope → Option (Nat × ScopeEnd)
  | [] => none
  | x :: xs =>
    match x.ended? s now with
    | some reason => some (0, reason)
    | none => (firstEnded? s now xs).map fun (k, reason) => (k + 1, reason)

theorem firstEnded?_eq_none_iff : firstEnded? s now xs = none ↔ ∀ x ∈ xs, x.ended? s now = none := by
  induction xs with
  | nil => exact iff_of_true rfl nofun
  | cons x xs ih =>
    rw [firstEnded?, List.forall_mem_cons, ← ih]
    cases x.ended? s now with
    | some reason => exact iff_of_false nofun nofun
    | none => simp only [Option.map_eq_none_iff, true_and]

theorem firstEnded?_eq_some (h : firstEnded? s now xs = some (k, reason)) :
    ∃ x, xs[k]? = some x ∧ x.ended? s now = some reason := by
  induction xs generalizing k with
  | nil => cases h
  | cons x xs ih =>
    rw [firstEnded?] at h
    cases ended : x.ended? s now with
    | some reason' =>
      rw [ended] at h
      cases h
      exact ⟨x, rfl, ended⟩
    | none =>
      rw [ended] at h
      obtain ⟨⟨k', reason'⟩, hk, h⟩ := Option.map_eq_some_iff.1 h
      cases h
      exact ih hk

end Scope

namespace Solo

/-- What is called, for the how-manieth time, and in which scope. -/
structure Call (ι : Type) where
  request : ι
  attempt : Nat
  scope : Scope

/-- How far a call has come. -/
inductive Phase (σ α : Type) where
  | ready
  | going (s : σ)
  | returned (outcome : Outcome α)

/-- The phase that some progress leads to. -/
def Phase.of : Progress σ (Outcome α) → Phase σ α
  | .waiting s => .going s
  | .finished outcome => .returned outcome

/-- What the call has returned, if it has. -/
def Phase.outcome? : Phase σ α → Option (Outcome α)
  | .returned outcome => some outcome
  | .ready | .going _ => none

/-- What happens to a call. -/
inductive Event (S : Type) where
  /-- The call makes a step, if it can. -/
  | step
  | pass (d : Nat)
  /-- Everything around the call may change: tokens, the journal, the site. -/
  | around (setting : Setting S)

end Solo

/-- A call by itself. -/
structure Solo (S σ α : Type) where
  now : Nat
  setting : Setting S
  phase : Solo.Phase σ α

namespace Solo

/-- A call that was not begun yet. -/
def initial (now : Nat) (setting : Setting S) : Solo S σ α := ⟨now, setting, .ready⟩

/-- One step of a call, if it can make one. -/
def step? (op : Operation S ι σ α) (call : Call ι) (w : Solo S σ α) : Option (Solo S σ α) :=
  match w.phase with
  | .ready =>
    let (setting, p) := op.start call.request call.attempt call.scope w.now w.setting
    some { w with setting := setting, phase := .of p }
  | .going s =>
    (op.resume w.now s w.setting).map fun (setting, p) => { w with setting := setting, phase := .of p }
  | .returned _ => none

/-- The instants at which the call may go on by itself. -/
def dues (op : Operation S ι σ α) (w : Solo S σ α) : List Nat :=
  match w.phase with
  | .going s => op.dues s
  | .ready | .returned _ => []

/-- What comes of an event. Nothing comes of a step that cannot be made. -/
def apply (op : Operation S ι σ α) (call : Call ι) (w : Solo S σ α) : Event S → Solo S σ α
  | .step => (w.step? op call).getD w
  | .pass d => { w with now := w.now + d }
  | .around setting => { w with setting := setting }

/-- What comes of a run: events one after the other, from an instant on. -/
def play (op : Operation S ι σ α) (call : Call ι) (now : Nat) (setting : Setting S)
    (events : List (Event S)) : Solo S σ α :=
  events.foldl (apply op call) (initial now setting)

/-- The clock may move on by a span. -/
structure MayPass (op : Operation S ι σ α) (call : Call ι) (w : Solo S σ α) (d : Nat) : Prop where
  rests : w.step? op call = none
  due : ∀ due ∈ w.dues op, w.now < due → w.now + d < due ∨ w.now + d = Instant.tick due

/-- Whether an event may happen next. -/
def Allows (op : Operation S ι σ α) (call : Call ι) (w : Solo S σ α) : Event S → Prop
  | .step => True
  | .pass d => w.MayPass op call d
  | .around setting => ∀ t, w.setting.signals.isRaised t = true → setting.signals.isRaised t = true

/-- Each of these events may happen when it does. -/
def Prompt (op : Operation S ι σ α) (call : Call ι) : Solo S σ α → List (Event S) → Prop
  | _, [] => True
  | w, e :: events => w.Allows op call e ∧ Prompt op call (w.apply op call e) events

variable {op : Operation S ι σ α} {call : Call ι} {start : Nat} {setting : Setting S} {w w' : Solo S σ α}
  {e : Event S} {events : List (Event S)}

theorem play_append (op : Operation S ι σ α) (call : Call ι) (start : Nat) (setting : Setting S)
    (events events' : List (Event S)) : play op call start setting (events ++ events') =
      events'.foldl (apply op call) (play op call start setting events) := List.foldl_append

theorem play_concat (op : Operation S ι σ α) (call : Call ι) (start : Nat) (setting : Setting S)
    (events : List (Event S)) (e : Event S) : play op call start setting (events ++ [e]) =
      (play op call start setting events).apply op call e := play_append ..

theorem prompt_append {events' : List (Event S)} : w.Prompt op call (events ++ events') ↔
    w.Prompt op call events ∧ (events.foldl (apply op call) w).Prompt op call events' := by
  induction events generalizing w with
  | nil => exact ⟨fun h => ⟨trivial, h⟩, fun h => h.2⟩
  | cons e events ih =>
    rw [List.cons_append, Prompt, Prompt, ih, and_assoc]
    rfl

theorem prompt_concat : (initial start setting).Prompt op call (events ++ [e]) ↔
    (initial start setting).Prompt op call events ∧
      (play op call start setting events).Allows op call e := by
  rw [prompt_append]
  exact and_congr_right fun _ => ⟨fun h => h.1, fun h => ⟨h, trivial⟩⟩

/-! ## Steps -/

/-- A step leads from `w` to the last argument. -/
inductive Stepped (op : Operation S ι σ α) (call : Call ι) (w : Solo S σ α) : Solo S σ α → Prop
  | started {setting p} : w.phase = .ready →
      op.start call.request call.attempt call.scope w.now w.setting = (setting, p) →
      Stepped op call w ⟨w.now, setting, .of p⟩
  | resumed {s setting p} : w.phase = .going s → op.resume w.now s w.setting = some (setting, p) →
      Stepped op call w ⟨w.now, setting, .of p⟩

theorem Stepped.of_step? (h : w.step? op call = some w') : Stepped op call w w' := by
  unfold step? at h
  split at h
  · rename_i ready
    cases h
    exact .started ready rfl
  · rename_i s going
    obtain ⟨⟨setting, p⟩, hr, rfl⟩ := Option.map_eq_some_iff.1 h
    exact .resumed going hr
  · cases h

theorem Stepped.now (h : Stepped op call w w') : w'.now = w.now := by
  cases h <;> rfl

theorem going_of_rests (rests : w.step? op call = none) (open_ : w.phase.outcome? = none) :
    ∃ s, w.phase = .going s ∧ op.resume w.now s w.setting = none := by
  cases hp : w.phase with
  | ready => simp only [step?, hp, reduceCtorEq] at rests
  | going s =>
    simp only [step?, hp, Option.map_eq_none_iff] at rests
    exact ⟨s, rfl, rests⟩
  | returned outcome =>
    rw [hp] at open_
    cases open_

theorem now_apply (op : Operation S ι σ α) (call : Call ι) (w : Solo S σ α) (he : ∀ d, e ≠ .pass d) :
    (w.apply op call e).now = w.now := by
  cases e with
  | pass d => exact absurd rfl (he d)
  | around setting => rfl
  | step =>
    simp only [apply]
    cases hs : w.step? op call with
    | none => rfl
    | some w' => exact (Stepped.of_step? hs).now

theorem phase_apply_of_returned {outcome : Outcome α} (h : w.phase = .returned outcome) (e : Event S) :
    (w.apply op call e).phase = .returned outcome := by
  cases e with
  | step => simp only [apply, step?, h, Option.getD_none]
  | pass d | around setting => exact h

theorem open_of_apply (h : (w.apply op call e).phase.outcome? = none) : w.phase.outcome? = none := by
  cases hp : w.phase with
  | returned outcome =>
    rw [phase_apply_of_returned hp] at h
    cases h
  | ready | going s => rfl

theorem exists_return {outcome : Outcome α} (h : (play op call start setting events).phase = .returned outcome) :
    ∃ before after, events = before ++ .step :: after ∧
      (play op call start setting before).phase.outcome? = none ∧
      (play op call start setting (before ++ [.step])).phase = .returned outcome := by
  induction events using List.reverseRecOn with
  | nil => cases h
  | append_singleton events e ih =>
    cases hp : (play op call start setting events).phase with
    | returned outcome' =>
      rw [play_concat, phase_apply_of_returned hp] at h
      obtain rfl := Phase.returned.inj h
      obtain ⟨before, after, rfl, open_, back⟩ := ih hp
      exact ⟨before, after ++ [e], by rw [List.append_assoc, List.cons_append], open_, back⟩
    | ready | going s =>
      cases e with
      | step => exact ⟨events, [], rfl, by rw [hp]; rfl, h⟩
      | pass d | around setting =>
        rw [play_concat, apply, hp] at h
        cases h

theorem reaches_play (op : Operation S ι σ α) (call : Call ι) (start : Nat) (setting : Setting S)
    (events : List (Event S)) {s : σ} (h : (play op call start setting events).phase = .going s) :
    op.Reaches call.scope s := by
  induction events using List.reverseRecOn generalizing s with
  | nil => cases h
  | append_singleton events e ih =>
    rw [play_concat] at h
    cases e with
    | pass d | around setting => exact ih h
    | step =>
      simp only [apply] at h
      cases hs : (play op call start setting events).step? op call with
      | none =>
        rw [hs] at h
        exact ih h
      | some w' =>
        rw [hs, Option.getD_some] at h
        cases Stepped.of_step? hs with
        | @started setting' p _ hr =>
          cases p with
          | waiting s' =>
            cases h
            exact .start hr
          | finished outcome => cases h
        | @resumed s' setting' p going hr =>
          cases p with
          | waiting s'' =>
            cases h
            exact .resume (ih going) hr
          | finished outcome => cases h

/-! ## Time goes on -/

/-- Time has gone on, and nothing was taken back. -/
structure Later (w w' : Solo S σ α) : Prop where
  now : w.now ≤ w'.now
  raised : ∀ t, w.setting.signals.isRaised t = true → w'.setting.signals.isRaised t = true

theorem Later.refl (w : Solo S σ α) : Later w w := ⟨Nat.le_refl _, fun _ h => h⟩

theorem Later.ended? (h : Later w w') {x : Scope} (lasts : x.ended? w'.setting.signals w'.now = none) :
    x.ended? w.setting.signals w.now = none := by
  cases ended : x.ended? w.setting.signals w.now with
  | none => rfl
  | some reason =>
    have still := Scope.isSome_ended?_mono h.now (h.raised x.token) (by rw [ended]; rfl)
    rw [lasts] at still
    cases still

theorem Later.apply {w₀ : Solo S σ α} (h : Later w₀ w) (keeps : op.KeepsCancelled)
    (allows : w.Allows op call e) : Later w₀ (w.apply op call e) := by
  cases e with
  | pass d => exact ⟨Nat.le_trans h.now (Nat.le_add_right _ _), h.raised⟩
  | around setting => exact ⟨h.now, fun t raised => allows t (h.raised t raised)⟩
  | step =>
    simp only [Solo.apply]
    cases hs : w.step? op call with
    | none => exact h
    | some w' =>
      cases Stepped.of_step? hs with
      | started _ hr =>
        refine ⟨h.now, fun t raised => ?_⟩
        have kept := keeps.start call.request call.attempt call.scope w.now w.setting t (h.raised t raised)
        rw [hr] at kept
        exact kept
      | resumed _ hr => exact ⟨h.now, fun t raised => keeps.resume _ _ _ _ _ t hr (h.raised t raised)⟩

theorem later_play (keeps : op.KeepsCancelled) {first : List (Event S)} (hf : first <+: events)
    (prompt : (initial start setting).Prompt op call events) :
    Later (play op call start setting first) (play op call start setting events) := by
  obtain ⟨rest, rfl⟩ := hf
  induction rest using List.reverseRecOn with
  | nil => rw [List.append_nil]; exact .refl _
  | append_singleton rest e ih =>
    rw [← List.append_assoc] at prompt ⊢
    obtain ⟨before, allows⟩ := prompt_concat.1 prompt
    rw [play_concat]
    exact (ih before).apply keeps allows

/-! ## Calls that end with a scope -/

/-- What is left of a call that is abandoned where it is. -/
def abandoned {β : Type} (op : Operation S ι σ β) (w : Solo S σ α) : Setting S :=
  match w.phase with
  | .going s => op.drop s w.setting
  | .ready | .returned _ => w.setting

/-- A call that is lost to the first of some scopes to end: it is not started any more, or
dropped where it is. -/
structure Heeds (op : Operation S ι σ α) (call : Call ι) (xs : List Scope)
    (lost : Nat → ScopeEnd → Outcome α) : Prop where
  start : ∀ {now w k reason}, Scope.firstEnded? w.signals now xs = some (k, reason) →
    op.start call.request call.attempt call.scope now w = (w, .finished (lost k reason))
  resume : ∀ {now s w k reason}, op.Reaches call.scope s →
    Scope.firstEnded? w.signals now xs = some (k, reason) →
    op.resume now s w = some (op.drop s w, .finished (lost k reason))
  due : ∀ {s x d}, op.Reaches call.scope s → x ∈ xs → x.deadline = some d → d ∈ op.dues s

/-- In a run so far, one of some scopes has ended, and this is the first instant at which any
has. -/
structure EndsFirst (run : List (Event S) → Solo S σ α) (xs : List Scope) (start : Nat)
    (events : List (Event S)) (k : Nat) (reason : ScopeEnd) : Prop where
  ended : Scope.firstEnded? (run events).setting.signals (run events).now xs = some (k, reason)
  /-- Its cancellation outranks its deadline. -/
  kind : ∃ x, xs[k]? = some x ∧ x.EndedBy (run events).setting.signals (run events).now reason
  earlier : ∀ first, first <+: events → (run first).now < (run events).now →
    ∀ x ∈ xs, x.ended? (run first).setting.signals (run first).now = none
  /-- A deadline ends its scope in the millisecond of its timer, or at once if it has passed. -/
  deadline : reason = .deadlineExceeded → ∃ x d, xs[k]? = some x ∧ x.deadline = some d ∧
    (run events).now = if d ≤ start then start else Instant.tick d

section Heeds

variable {xs : List Scope} {lost : Nat → ScopeEnd → Outcome α} {k : Nat} {reason : ScopeEnd}

/-- **Once one of its scopes has ended** a call returns in its next step. -/
theorem Heeds.step? (heeds : Heeds op call xs lost) (open_ : w.phase.outcome? = none)
    (reached : ∀ s, w.phase = .going s → op.Reaches call.scope s)
    (ended : Scope.firstEnded? w.setting.signals w.now xs = some (k, reason)) :
    w.step? op call = some ⟨w.now, w.abandoned op, .returned (lost k reason)⟩ := by
  unfold Solo.step? abandoned
  cases hp : w.phase with
  | ready =>
    simp only [heeds.start ended]
    rfl
  | going s =>
    simp only [heeds.resume (reached s hp) ended]
    rfl
  | returned outcome =>
    rw [hp] at open_
    cases open_

/-- No time passes while a call is lost to a scope. -/
theorem Heeds.lasts (heeds : Heeds op call xs lost) (open_ : w.phase.outcome? = none)
    (reached : ∀ s, w.phase = .going s → op.Reaches call.scope s) {d : Nat} (may : w.MayPass op call d) :
    ∀ x ∈ xs, x.ended? w.setting.signals w.now = none := by
  rw [← Scope.firstEnded?_eq_none_iff]
  cases ended : Scope.firstEnded? w.setting.signals w.now xs with
  | none => rfl
  | some first =>
    have stepped := heeds.step? open_ reached ended
    rw [may.rests] at stepped
    cases stepped

theorem lost_play (heeds : Heeds op call xs lost)
    (open_ : (play op call start setting events).phase.outcome? = none)
    (ended : Scope.firstEnded? (play op call start setting events).setting.signals
      (play op call start setting events).now xs = some (k, reason)) :
    play op call start setting (events ++ [.step]) = ⟨(play op call start setting events).now,
        (play op call start setting events).abandoned op, .returned (lost k reason)⟩ ∧
      ∀ d, ¬(play op call start setting events).MayPass op call d := by
  have stepped := heeds.step? open_ (fun _ => reaches_play op call start setting events) ended
  constructor
  · rw [play_concat, apply, stepped]
    rfl
  · intro d may
    rw [may.rests] at stepped
    cases stepped

/-- As long as a call goes on, none of its scopes had ended at an earlier instant. -/
theorem earlier_play (heeds : Heeds op call xs lost) (keeps : op.KeepsCancelled)
    (prompt : (initial start setting).Prompt op call events)
    (open_ : (play op call start setting events).phase.outcome? = none) {first : List (Event S)}
    (hf : first <+: events) (before : (play op call start setting first).now <
      (play op call start setting events).now) : ∀ x ∈ xs,
    x.ended? (play op call start setting first).setting.signals (play op call start setting first).now =
      none := by
  induction events using List.reverseRecOn with
  | nil =>
    rw [List.prefix_nil.1 hf] at before
    exact absurd before (Nat.lt_irrefl _)
  | append_singleton events e ih =>
    obtain ⟨prior, allows⟩ := prompt_concat.1 prompt
    have still : (play op call start setting events).phase.outcome? = none := by
      rw [play_concat] at open_
      exact open_of_apply open_
    have inside : first <+: events := by
      rcases List.prefix_concat_iff.1 hf with rfl | inside
      · exact absurd before (Nat.lt_irrefl _)
      · exact inside
    by_cases same : (play op call start setting first).now < (play op call start setting events).now
    · exact ih prior still inside same
    · -- The clock moves on in the last event, and may do so only while the scopes last.
      have passes : ∃ d, e = .pass d := by
        refine Classical.byContradiction fun none => same ?_
        rw [play_concat, now_apply op call _ fun d hd => none ⟨d, hd⟩] at before
        exact before
      obtain ⟨d, rfl⟩ := passes
      intro x hx
      have lasts := heeds.lasts still (fun s => reaches_play op call start setting events) allows x hx
      exact (later_play keeps inside prior).ended? lasts

/-- As long as a call goes on, the clock has not passed by the deadline of a scope. -/
theorem within_play (heeds : Heeds op call xs lost)
    (prompt : (initial start setting).Prompt op call events)
    (open_ : (play op call start setting events).phase.outcome? = none) {x : Scope} (hx : x ∈ xs) {d : Nat}
    (hd : x.deadline = some d) (ahead : start < d) : (play op call start setting events).now < d ∨
      (play op call start setting events).now = Instant.tick d := by
  induction events using List.reverseRecOn with
  | nil => exact .inl ahead
  | append_singleton events e ih =>
    obtain ⟨prompt, allows⟩ := prompt_concat.1 prompt
    rw [play_concat] at open_ ⊢
    have still := open_of_apply open_
    by_cases passes : ∃ d, e = .pass d
    · obtain ⟨span, rfl⟩ := passes
      have may : (play op call start setting events).MayPass op call span := allows
      have reached (s : σ) := reaches_play op call start setting events (s := s)
      obtain ⟨s, going, -⟩ := going_of_rests may.rests still
      have lasts := heeds.lasts still reached may x hx
      refine may.due d ?_ (Scope.lt_of_ended?_eq_none lasts hd)
      simp only [dues, going]
      exact heeds.due (reached s going) hx hd
    · rw [now_apply op call _ fun d hd => passes ⟨d, hd⟩]
      exact ih prompt still

/-- As long as a call goes on, the clock stands before the deadline of a scope, or where its
timer fires. -/
theorem onTime_play (heeds : Heeds op call xs lost) (keeps : op.KeepsCancelled)
    (prompt : (initial start setting).Prompt op call events)
    (open_ : (play op call start setting events).phase.outcome? = none) {x : Scope} (hx : x ∈ xs) {d : Nat}
    (hd : x.deadline = some d) : (play op call start setting events).now < d ∨
      (play op call start setting events).now = if d ≤ start then start else Instant.tick d := by
  split
  · rename_i passed
    -- It had passed at the start, so no time goes by.
    have since : start ≤ (play op call start setting events).now :=
      (later_play keeps (List.nil_prefix (l := events)) prompt).now
    refine .inr (Nat.le_antisymm (Nat.le_of_not_lt fun later => ?_) since)
    have lasts := earlier_play heeds keeps prompt open_ List.nil_prefix later x hx
    exact Nat.not_le_of_lt (Scope.lt_of_ended?_eq_none lasts hd) passed
  · rename_i ahead
    exact within_play heeds prompt open_ hx hd (Nat.lt_of_not_le ahead)

/-- **The first scope to end** is seen to end at the first instant at which one has. -/
theorem endsFirst_play (heeds : Heeds op call xs lost) (keeps : op.KeepsCancelled)
    (prompt : (initial start setting).Prompt op call events)
    (open_ : (play op call start setting events).phase.outcome? = none)
    (ended : Scope.firstEnded? (play op call start setting events).setting.signals
      (play op call start setting events).now xs = some (k, reason)) :
    EndsFirst (play op call start setting) xs start events k reason := by
  obtain ⟨x, hk, hx⟩ := Scope.firstEnded?_eq_some ended
  refine ⟨ended, ⟨x, hk, Scope.ended?_eq_some_iff.1 hx⟩,
    fun first hf before => earlier_play heeds keeps prompt open_ hf before, fun hr => ?_⟩
  subst hr
  cases Scope.ended?_eq_some_iff.1 hx with
  | @deadline d _ hd reached =>
    refine ⟨x, d, hk, hd, ?_⟩
    rcases onTime_play heeds keeps prompt open_ (List.mem_of_getElem? hk) hd with short | due
    · exact absurd reached (Nat.not_le_of_lt short)
    · exact due

end Heeds

end Solo

end CallGuard
