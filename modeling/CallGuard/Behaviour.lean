/-
Behaviours: scripts for operations. A behaviour may cancel the scope it runs
in, sleep, sleep no longer than its scope lives, wait for the end of its
scope, hang, and end in any way an operation can.
-/
import CallGuard.Operation

namespace CallGuard

/-- What a run of an operation does, step after step. -/
inductive Behaviour (α : Type) where
  | finish (outcome : Outcome α)
  | cancelScope (rest : Behaviour α)
  | sleep (d : Nat) (rest : Behaviour α)
  /-- Sleeps inside its scope: fails with the scope's end if that comes first. -/
  | sleepInScope (d : Nat) (rest : Behaviour α)
  /-- Waits for the end of its scope and fails with it. -/
  | awaitScopeEnd
  | hang

/-- A behaviour that has to wait. -/
inductive Activity (α : Type) where
  | asleep (due : Nat) (rest : Behaviour α)
  | asleepInScope (due : Nat) (rest : Behaviour α)
  | awaitingScopeEnd
  | hanging

variable {α : Type}

/-- Runs a behaviour at an instant until it ends or has to wait. -/
def Behaviour.run (now : Nat) (scope : Scope) :
    Behaviour α → Signals → Signals × Progress (Activity α) (Outcome α)
  | finish outcome, s => (s, .finished outcome)
  | cancelScope rest, s => rest.run now scope (s.raise scope.token)
  | sleep d rest, s =>
    if d = 0 then rest.run now scope s else (s, .waiting (.asleep (Instant.pauseEnd now d) rest))
  | sleepInScope d rest, s =>
    match scope.ended? s now with
    | some reason => (s, .finished (.failure (.scope reason)))
    | none =>
      if d = 0 then rest.run now scope s
      else (s, .waiting (.asleepInScope (Instant.pauseEnd now d) rest))
  | awaitScopeEnd, s =>
    match scope.ended? s now with
    | some reason => (s, .finished (.failure (.scope reason)))
    | none => (s, .waiting .awaitingScopeEnd)
  | hang, s => (s, .waiting .hanging)

namespace Activity

/-- Goes on with a behaviour that was waiting, if its wait is over. -/
def resume (now : Nat) (scope : Scope) :
    Activity α → Signals → Option (Signals × Progress (Activity α) (Outcome α))
  | asleep due rest, s => if due ≤ now then some (rest.run now scope s) else none
  | asleepInScope due rest, s =>
    match scope.ended? s now with
    | some reason => some (s, .finished (.failure (.scope reason)))
    | none => if due ≤ now then some (rest.run now scope s) else none
  | awaitingScopeEnd, s =>
    (scope.ended? s now).map fun reason => (s, .finished (.failure (.scope reason)))
  | hanging, _ => none

/-- The instants for which a behaviour waits. -/
def dues (scope : Scope) : Activity α → List Nat
  | asleep due _ => [due]
  | asleepInScope due _ => due :: scope.deadline.toList
  | awaitingScopeEnd => scope.deadline.toList
  | hanging => []

end Activity

/-- Runs that follow a script: run `k`, counted from one, follows entry `k`,
and the last entry serves for all runs beyond the end. -/
structure Script (α : Type) where
  entries : List (Behaviour α)
  last : Behaviour α

/-- What run `k` follows. -/
def Script.entry (script : Script α) (k : Nat) : Behaviour α :=
  script.entries.getD (k - 1) script.last

namespace Operation

variable {S ι : Type}

/-- The operation whose tries behave as `behaviour` says. Each start is noted at
the site, and so is each end. -/
def scripted (behaviour : ι → Nat → Behaviour α) (noteStart : ι → Nat → S → S)
    (noteEnd : Outcome α → S → S) : Operation S ι (Scope × Activity α) α where
  start request n scope now w :=
    let (signals, p) := (behaviour request n).run now scope w.signals
    close scope { w with site := noteStart request now w.site, signals := signals } p
  resume now state w :=
    (state.2.resume now state.1 w.signals).map fun (signals, p) =>
      close state.1 { w with signals := signals } p
  drop _ w := w
  dues state := state.2.dues state.1
where
  close (scope : Scope) (w : Setting S) :
      Progress (Activity α) (Outcome α) → Setting S × Progress (Scope × Activity α) (Outcome α)
    | .waiting a => (w, .waiting (scope, a))
    | .finished o => ({ w with site := noteEnd o w.site }, .finished o)

end Operation

end CallGuard
