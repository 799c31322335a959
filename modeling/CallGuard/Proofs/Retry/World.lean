/-
A retried operation over time, as a system of single steps: the run steps
whenever it can, the clock moves on when it cannot, tokens are cancelled and
the site changes around it. A run is any list of these events, in any order.

The clock stops at whole milliseconds, and never passes the one at which a wait
of the run is over. Beside the run stand its tries, as they were seen from
outside.
-/
import CallGuard.Retry.Run
import Mathlib.Data.List.Induction

namespace CallGuard.Retry

variable {S ι σ α : Type}

/-- One try, as it was seen. -/
structure Try (α : Type) where
  /-- Counted from zero. -/
  number : Nat
  start : Nat
  /-- Whether its scope had ended when it began, and why. -/
  scopeEnd : Option ScopeEnd
  launched : Bool
  /-- When it ended, and how. -/
  ending : Option (Nat × Verdict α)

namespace Try

/-- Whether work was started, by what became of it at once: a race whose scope
has already ended starts none. -/
def isLaunched : Progress σ (Verdict α) → Bool
  | .finished (.scopeEnded _) => false
  | _ => true

/-- What became of a try at an instant. -/
def take (now : Nat) (t : Try α) : Progress σ (Verdict α) → Try α
  | .waiting _ => t
  | .finished verdict => { t with ending := some (now, verdict) }

end Try

/-- A run of retries with all around it, and what was seen of its tries. -/
structure World (S σ α : Type) where
  now : Nat
  setting : Setting S
  run : Run σ α
  /-- The tries so far, the latest first. -/
  tries : List (Try α)
  /-- When the run ended in a pause though its scope had not. -/
  exhausted : Option Nat

/-- What happens to a run of retries. -/
inductive Event (S : Type) where
  /-- The run makes a step, if it can. -/
  | step
  /-- The clock moves on to an instant, if nothing is to be done before. -/
  | pass (instant : Nat)
  | raise (token : Token)
  | around (site : S) (journal : Journal)

namespace World

/-- A run that has made no try yet. -/
def initial (job : Job ι) (setting : Setting S) : World S σ α :=
  ⟨job.started, setting, .initial job.policy, [], none⟩

/-- Watches the tries during a step of the run. -/
def watch (op : Operation S ι σ α) (job : Job ι) (w : World S σ α) : List (Try α) :=
  match w.run.phase, w.tries with
  | .ready, tries =>
    let p := (Race.start op job.request (w.run.attempt + 1) job.scope w.now w.setting).2
    let began : Try α :=
      ⟨tries.length, w.now, job.scope.ended? w.setting.signals w.now, Try.isLaunched p, none⟩
    began.take w.now p :: tries
  | .trying s, t :: tries =>
    match Race.resume op job.scope w.now s w.setting with
    | some (_, p) => t.take w.now p :: tries
    | none => t :: tries
  | _, tries => tries

/-- Watches the end of the run in a pause. -/
def watchEnd (job : Job ι) (w : World S σ α) (run : Run σ α) : Option Nat :=
  match w.run.phase, run.phase with
  | .pausing _ _, .ended _ =>
    if (job.scope.ended? w.setting.signals w.now).isNone then some w.now else w.exhausted
  | _, _ => w.exhausted

/-- The clock may move on to an instant: the run has nothing to do now, and none
of its waits is over before. -/
def mayPass (op : Operation S ι σ α) (job : Job ι) (w : World S σ α) (instant : Nat) : Bool :=
  (w.run.step op job w.now w.setting).isNone && decide (w.now < instant) &&
    instant % 1000000 == 0 &&
    (w.run.dues op job).all fun due => decide (w.now < due → instant ≤ Instant.tick due)

/-- The run makes a step, if it can. -/
def step (op : Operation S ι σ α) (job : Job ι) (w : World S σ α) : World S σ α :=
  match w.run.step op job w.now w.setting with
  | some (run, setting) =>
    { w with run := run, setting := setting, tries := w.watch op job, exhausted := w.watchEnd job run }
  | none => w

/-- What comes of an event. Nothing comes of one that is impossible. -/
def apply (op : Operation S ι σ α) (job : Job ι) (w : World S σ α) : Event S → World S σ α
  | .step => w.step op job
  | .pass instant => if w.mayPass op job instant then { w with now := instant } else w
  | .raise token => { w with setting := { w.setting with signals := w.setting.signals.raise token } }
  | .around site journal => { w with setting := ⟨w.setting.signals, journal, site⟩ }

/-- What comes of a run: events one after the other, from its beginning on. -/
def play (op : Operation S ι σ α) (job : Job ι) (setting : Setting S) (events : List (Event S)) :
    World S σ α :=
  events.foldl (apply op job) (initial job setting)

theorem play_concat (op : Operation S ι σ α) (job : Job ι) (setting : Setting S)
    (events : List (Event S)) (e : Event S) :
    play op job setting (events ++ [e]) = (play op job setting events).apply op job e := by
  simp only [play, List.foldl_append, List.foldl_cons, List.foldl_nil]

theorem mayPass_iff {op : Operation S ι σ α} {job : Job ι} {w : World S σ α} {instant : Nat} :
    w.mayPass op job instant = true ↔ w.run.step op job w.now w.setting = none ∧ w.now < instant ∧
      instant % 1000000 = 0 ∧ ∀ due ∈ w.run.dues op job, w.now < due → instant ≤ Instant.tick due := by
  simp only [mayPass, Bool.and_eq_true, Option.isNone_iff_eq_none, decide_eq_true_eq, beq_iff_eq,
    List.all_eq_true, and_assoc]

end World

end CallGuard.Retry
