/-
A breaker with one user, whose calls all fail one after the other. A closed breaker counts
the calls (`Worn`), the one that makes as many failures as its threshold opens it, and from
then on it turns the user away.
-/
import CallGuard.Proofs.Breaker.Window
import CallGuard.Proofs.Processor.Calls
import CallGuard.Retry.Patterns

namespace CallGuard

variable {S ι σ α : Type}

open Circuit (Hooks)

/-! ## What can be told afterwards -/

/-- How many calls were begun. -/
def Note.begunIn (notes : List (Note ι α)) : Nat := notes.countP (· matches .begun _)

@[simp] theorem Note.begunIn_append (notes more : List (Note ι α)) :
    begunIn (notes ++ more) = begunIn notes + begunIn more := by
  simp only [begunIn, List.countP_append]

@[simp] theorem Note.begunIn_ofProgress (p : Progress σ (Outcome α)) :
    begunIn (ofProgress (ι := ι) p) = 0 := by
  cases p <;> rfl

@[simp] theorem Note.begunIn_begun_ofProgress (request : ι) (p : Progress σ (Outcome α)) :
    begunIn (.begun request :: ofProgress p) = 1 := by
  cases p <;> rfl

/-- A site behind a breaker, with the notes of the calls made there. -/
abbrev Observed (S ι α : Type) : Type := Guarded (S × List (Note ι α))

/-- The changes of state that hooks heard of, the latest first. -/
def HookEvent.changes (events : List HookEvent) : List CircuitChange :=
  events.filterMap fun
    | .heard (.changed change) _ => some change
    | _ => none

namespace Circuit

variable {hooks : Hooks}

/-- What hooks hear of some changes: all, if there is a hook for them. -/
def Hooks.told (hooks : Hooks) (changes : List CircuitChange) : List CircuitChange :=
  if hooks.onChange then changes else []

theorem Hooks.Quiet.runHooks_eq (quiet : hooks.Quiet) (depth : Nat) (notice : Notice) (c : Circuit) :
    runHooks hooks depth notice c =
      if hooks.hears notice then { c with events := .heard notice c.breaker.view :: c.events } else c := by
  unfold runHooks
  rw [quiet notice]
  cases depth <;> rfl

theorem Hooks.Quiet.runHooks_breaker (quiet : hooks.Quiet) (depth : Nat) (notice : Notice) (c : Circuit) :
    (runHooks hooks depth notice c).breaker = c.breaker := by
  rw [quiet.runHooks_eq]
  split <;> rfl

theorem Hooks.Quiet.announce_breaker (quiet : hooks.Quiet) (depth : Nat) (change : Option CircuitChange)
    (c : Circuit) : (announce (runHooks hooks depth) change c).breaker = c.breaker := by
  cases change with
  | none => rfl
  | some change => exact quiet.runHooks_breaker _ _ _

theorem Hooks.Quiet.changes_announce (quiet : hooks.Quiet) (depth : Nat) (change : Option CircuitChange)
    (c : Circuit) : HookEvent.changes (announce (runHooks hooks depth) change c).events =
      hooks.told change.toList ++ HookEvent.changes c.events := by
  unfold Hooks.told
  cases change with
  | none => simp only [announce, Option.toList_none, ite_self, List.nil_append]
  | some change =>
    simp only [announce, quiet.runHooks_eq]
    by_cases hears : hooks.onChange = true
    · rw [if_pos (show hooks.hears (.changed change) = true from hears), if_pos hears]
      rfl
    · rw [if_neg (show ¬ hooks.hears (.changed change) = true from hears), if_neg hears]
      rfl

/-- Of a failure hooks hear the change that it makes, and nothing else happens. -/
theorem Hooks.Quiet.conclude_failure (quiet : hooks.Quiet) (depth : Nat) (f : Failure) (c : Circuit) :
    (c.conclude (runHooks hooks depth) (.failure f : Outcome α)).breaker = (c.breaker.fail c.now).1 ∧
      HookEvent.changes (c.conclude (runHooks hooks depth) (.failure f : Outcome α)).events =
        hooks.told (c.breaker.fail c.now).2.toList ++ HookEvent.changes c.events := by
  have heard (c : Circuit) :
      HookEvent.changes (runHooks hooks depth (.failed f) c).events = HookEvent.changes c.events := by
    rw [quiet.runHooks_eq]
    split <;> rfl
  constructor
  · simp only [conclude, quiet.runHooks_breaker, quiet.announce_breaker]
  · simp only [conclude, heard, quiet.changes_announce]

end Circuit

theorem Breaker.fail_closed {b : Breaker} (h : b.state = .closed) (now : Nat) : b.fail now =
    if b.threshold ≤ Word.clamp (b.failures + 1) then
      ({ b with state := .opened, failures := 0, successes := 0, lastFailure := some now },
        some ⟨.closed, .opened⟩)
    else ({ b with failures := Word.clamp (b.failures + 1), lastFailure := some now }, none) := by
  unfold fail moveTo
  simp only [h, reduceCtorEq, if_false]

/-! ## Failures in a row -/

/-- A site whose breaker was `b` before so many calls, all of which failed: it counts them, or
the last of them, which ended at an instant, has opened it. -/
inductive Worn (b : Breaker) (hooks : Hooks) (g : Guarded S) : Nat → Option Nat → Prop
  | closed {calls} : g.breaker.threshold = b.threshold → g.breaker.resetTimeout = b.resetTimeout →
      g.breaker.state = .closed → g.breaker.failures = b.failures + calls →
      b.failures + calls < b.threshold → HookEvent.changes g.events = [] → Worn b hooks g calls none
  | opened {calls e} : g.breaker.resetTimeout = b.resetTimeout → g.breaker.state = .opened →
      g.breaker.lastFailure = some e → b.failures + calls = b.threshold →
      HookEvent.changes g.events = hooks.told [⟨.closed, .opened⟩] → Worn b hooks g calls (some e)

namespace Worn

variable {b : Breaker} {hooks : Hooks} {g : Guarded S} {calls : Nat} {last : Option Nat}

theorem of_same {T : Type} {g' : Guarded T} (h : Worn b hooks g calls last)
    (breaker : g'.breaker = g.breaker) (events : g'.events = g.events) : Worn b hooks g' calls last := by
  cases h with
  | closed threshold timeout state failures below unheard =>
    rw [← breaker] at threshold timeout state failures
    exact .closed threshold timeout state failures below (events ▸ unheard)
  | opened timeout state failed reached heard =>
    rw [← breaker] at timeout state failed
    exact .opened timeout state failed reached (events ▸ heard)

/-- The breaker lets no more calls fail than it takes to open it. -/
theorem calls_le (h : Worn b hooks g calls last) : calls ≤ b.threshold - b.failures := by
  cases h <;> omega

theorem calls_eq {e : Nat} (h : Worn b hooks g calls (some e)) : calls = b.threshold - b.failures := by
  cases h
  omega

/-- **One more failure.** -/
theorem fail (quiet : hooks.Quiet) (fits : b.threshold ≤ Word.last) {w : Setting (Guarded S)}
    (h : Worn b hooks w.site calls none) (now : Nat) (f : Failure) :
    ∃ last, (∀ e, last = some e → e = now) ∧
      Worn b hooks (Guarded.use now (fun c => ((), c.conclude
        (Operation.guarded.listener hooks) (.failure f : Outcome α))) w).2.site (calls + 1) last := by
  cases h with
  | closed threshold timeout state failures below unheard =>
  obtain ⟨breaker, changes⟩ := quiet.conclude_failure (α := α) 1 f
    ⟨w.site.breaker, now, w.journal, w.site.events⟩
  have count : Word.clamp (w.site.breaker.failures + 1) = b.failures + calls + 1 := by
    rw [failures]
    exact Word.clamp_of_le (by omega)
  simp only [Breaker.fail_closed state, count, threshold, unheard, List.append_nil] at breaker changes
  by_cases opens : b.threshold ≤ b.failures + calls + 1
  · simp only [if_pos opens, Option.toList_some] at breaker changes
    refine ⟨some now, fun e he => (Option.some.inj he).symm, .opened ?_ ?_ ?_ (by omega) changes⟩
    · exact (congrArg Breaker.resetTimeout breaker).trans timeout
    · exact congrArg Breaker.state breaker
    · exact congrArg Breaker.lastFailure breaker
  · simp only [if_neg opens, Option.toList_none] at breaker changes
    refine ⟨none, fun e he => absurd he.symm (Option.some_ne_none e), .closed ?_ ?_ ?_ ?_ (by omega) ?_⟩
    · exact (congrArg Breaker.threshold breaker :)
    · exact (congrArg Breaker.resetTimeout breaker).trans timeout
    · exact (congrArg Breaker.state breaker).trans state
    · exact congrArg Breaker.failures breaker
    · exact changes.trans (ite_self _)

theorem admits {w : Setting (Guarded S)} (h : Worn b hooks w.site calls none) (now : Nat)
    (listen : Circuit.Listener) :
    Guarded.use now (·.ask listen) w = (true, w.log (.callAdmitted .closed)) := by
  cases h with
  | closed _ _ state _ _ _ =>
    simp only [Guarded.use, Circuit.ask, Breaker.ask, state, Circuit.announce, if_true]
    rfl

/-- Once it has opened, it turns calls away until its reset timeout has passed. -/
theorem rejects {e now : Nat} (h : Worn b hooks g calls (some e)) (soon : now ≤ e + b.resetTimeout) :
    (g.breaker.ask now).1 = false := by
  cases h with
  | opened timeout state failed _ _ =>
    have warm : g.breaker.cooled now = false := by
      simp only [Breaker.cooled, failed, timeout, decide_eq_false_iff_not]
      omega
    simp only [Breaker.ask, state, warm, Bool.false_eq_true, if_false]

end Worn

/-! ## Calls that fail -/

/-- Of a call that has ended: it failed, and its failure matches no pattern. -/
def Note.failing (patterns : List String) : Note ι α → Bool
  | .begun _ => true
  | .ended (some (.failure f)) => !Retry.isFinal patterns f
  | .ended _ => false

/-- What came of a call behind the breaker at an instant, which so many failed calls went
before: it has to wait, or it has failed and is counted. -/
inductive Fared (b : Breaker) (hooks : Hooks) (patterns : List String) (now calls : Nat) :
    Setting (Observed S ι α) × Progress σ (Outcome α) → Prop
  | waits {w s} : Worn b hooks w.site calls none → Note.begunIn w.site.site.2 = calls + 1 →
      Fared b hooks patterns now calls (w, .waiting s)
  | fails {w f last} : Retry.isFinal patterns f = false → (∀ e, last = some e → e = now) →
      Worn b hooks w.site (calls + 1) last → Note.begunIn w.site.site.2 = calls + 1 →
      Fared b hooks patterns now calls (w, .finished (.failure f))

section Call

variable {b : Breaker} {hooks : Hooks} {patterns : List String} {calls : Nat} {op : Operation S ι σ α}

theorem Fared.finish (quiet : hooks.Quiet) (fits : b.threshold ≤ Word.last) {now : Nat}
    {w : Setting (Observed S ι α)} {notes : List (Note ι α)} {p : Progress σ (Outcome α)}
    (worn : Worn b hooks w.site calls none) (begun : Note.begunIn w.site.site.2 = calls + 1)
    (written : w.site.site.2 = notes ++ Note.ofProgress p)
    (failing : (Operation.guarded.finish hooks now (w, p)).1.site.site.2.all (Note.failing patterns) = true) :
    Fared b hooks patterns now calls (Operation.guarded.finish hooks now (w, p)) := by
  cases p with
  | waiting s => exact .waits worn begun
  | finished outcome =>
    -- The breaker takes in how the call ended, and writes no notes.
    have failing : w.site.site.2.all (Note.failing patterns) = true := failing
    simp only [written, List.all_append, Note.ofProgress, List.all_cons, Bool.and_eq_true] at failing
    obtain ⟨-, failed, -⟩ := failing
    cases outcome with
    | failure f =>
      obtain ⟨last, at_now, worn⟩ := worn.fail (α := α) quiet fits now f
      exact .fails (Bool.not_eq_true' _ ▸ failed) at_now worn begun
    | value a => cases failed
    | panic message => cases failed

theorem Worn.start (quiet : hooks.Quiet) (fits : b.threshold ≤ Word.last) {request : ι} {n : Nat}
    {scope : Scope} {now : Nat} {w : Setting (Observed S ι α)}
    {r : Setting (Observed S ι α) × Progress σ (Outcome α)} (worn : Worn b hooks w.site calls none)
    (begun : Note.begunIn w.site.site.2 = calls)
    (started : (op.noted.guarded hooks).start request n scope now w = r)
    (failing : r.1.site.site.2.all (Note.failing patterns) = true) : Fared b hooks patterns now calls r := by
  subst started
  have admitted := worn.admits now (Operation.guarded.listener hooks)
  simp only [Operation.guarded, admitted, if_true] at failing ⊢
  refine Fared.finish quiet fits (worn.of_same rfl rfl) ?_ (List.append_cons _ _ _) failing
  simp only [Operation.noted, Guarded.put, Setting.beside, Setting.log,
    Note.begunIn_append, Note.begunIn_begun_ofProgress, begun]

theorem Worn.resume (quiet : hooks.Quiet) (fits : b.threshold ≤ Word.last)
    {now : Nat} {s : σ} {w : Setting (Observed S ι α)}
    {r : Setting (Observed S ι α) × Progress σ (Outcome α)}
    (worn : Worn b hooks w.site calls none) (begun : Note.begunIn w.site.site.2 = calls + 1)
    (resumed : (op.noted.guarded hooks).resume now s w = some r)
    (failing : r.1.site.site.2.all (Note.failing patterns) = true) : Fared b hooks patterns now calls r := by
  obtain ⟨q, hq, rfl⟩ := Option.map_eq_some_iff.1 resumed
  obtain ⟨⟨inner, p⟩, hp, rfl⟩ := Option.map_eq_some_iff.1 hq
  obtain ⟨⟨inner', p'⟩, -, he⟩ := Option.map_eq_some_iff.1 hp
  cases he
  refine Fared.finish quiet fits (worn.of_same rfl rfl) ?_ rfl failing
  simp only [Guarded.put, Setting.beside, Note.begunIn_append, Note.begunIn_ofProgress, Nat.add_zero]
  exact begun

end Call

end CallGuard
