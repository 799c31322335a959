/-
A family of scopes over time: scopes are made and cancelled by name, watchers
tell when a scope ends, and a behaviour may run inside one.
-/
import CallGuard.Behaviour
import CallGuard.Race
import CallGuard.Timeline

namespace CallGuard.Scenario

/-- What is being waited for in front. -/
inductive ScopeWait where
  /-- The end of a scope. -/
  | ended (scope : Scope)
  /-- A behaviour inside a scope. -/
  | running (scope : Scope) (state : Scope × Activity Nat)
  | done (verdict : Verdict Nat)
  | nothing

/-- Scopes in a scenario, those who watch them, and what is waited for. -/
structure Scopes where
  now : Nat
  setting : Setting Unit
  /-- The scopes so far, by name, the first first. -/
  named : List (String × Scope)
  watchers : List (String × Scope)
  /-- Watchers that saw the end of their scope, the latest first. -/
  fired : List (String × ScopeEnd × Nat)
  wait : ScopeWait

namespace Scopes

/-- There are no scopes yet. -/
def empty : Scopes := ⟨0, ⟨.empty, [], ()⟩, [], [], [], .nothing⟩

/-- A run of a behaviour, which is its own request. -/
def behaving : Operation Unit (Behaviour Nat) (Scope × Activity Nat) Nat :=
  .scripted (fun b _ => b) (fun _ _ s => s) (fun _ s => s)

/-- The scope with a name. -/
def find? (s : Scopes) (name : String) : Option Scope := s.named.lookup name

/-- Adds a scope made from the signals. A name means the latest scope that was
given it. -/
def add (s : Scopes) (name : String) (make : Signals → Scope × Signals) : Scopes :=
  let (scope, signals) := make s.setting.signals
  { s with
    named := s.named.filter (·.1 != name) ++ [(name, scope)]
    setting := { s.setting with signals := signals } }

/-- Cancels a scope. -/
def cancel (s : Scopes) (scope : Scope) : Scopes :=
  { s with setting := { s.setting with signals := s.setting.signals.raise scope.token } }

/-- Whether a scope has ended by now, and why. -/
def ended? (s : Scopes) (scope : Scope) : Option ScopeEnd := scope.ended? s.setting.signals s.now

/-- Sets a watcher on a scope. -/
def watch (s : Scopes) (name : String) (scope : Scope) : Scopes :=
  { s with watchers := s.watchers ++ [(name, scope)] }

/-- The first watcher whose scope has ended tells so. -/
def fire? (now : Nat) (s : Scopes) : Option Scopes :=
  let (gone, waiting) :=
    s.watchers.partition fun w => (w.2.ended? s.setting.signals now).isSome
  match gone with
  | [] => none
  | _ :: _ =>
    let news := gone.filterMap fun w =>
      (w.2.ended? s.setting.signals now).map fun reason => (w.1, reason, now)
    some { s with watchers := waiting, fired := news.reverse ++ s.fired }

/-- What is waited for in front goes on. -/
def proceed? (now : Nat) (s : Scopes) : Option Scopes :=
  match s.wait with
  | .ended scope =>
    (scope.ended? s.setting.signals now).map fun reason => { s with wait := .done (.scopeEnded reason) }
  | .running scope state =>
    (Race.resume behaving scope now state s.setting).map fun (w, p) =>
      match p with
      | .waiting state => { s with setting := w, wait := .running scope state }
      | .finished verdict => { s with setting := w, wait := .done verdict }
  | .done _ | .nothing => none

/-- The steps of the watchers, and of what is waited for. -/
def machine : Machine Scopes where
  step now s := s.fire? now <|> s.proceed? now
  dues s :=
    s.watchers.flatMap (·.2.deadline.toList) ++
      match s.wait with
      | .ended scope => scope.deadline.toList
      | .running scope state => Race.dues behaving scope state
      | .done _ | .nothing => []

/-- Whether what was waited for has come. -/
def isOver (s : Scopes) : Bool :=
  match s.wait with
  | .done _ => true
  | _ => false

/-- Lets everything happen that can happen now. -/
def settle (s : Scopes) : Scopes := machine.settle s.now s

/-- Lets time pass. -/
def advance (s : Scopes) (d : Nat) : Scopes :=
  let (now, s) := machine.advance d s.now s
  { s with now := now }

/-- Waits at most `limit` for what is in front; nothing else runs before the
first look at it. -/
def await (s : Scopes) (limit : Nat) : Option (Verdict Nat) × Scopes :=
  let (now, s) :=
    if s.isOver || limit = 0 then (s.now, s) else machine.run isOver (s.now + limit) s.now s
  let s := { s with now := now }
  match s.wait with
  | .done verdict => (some verdict, { s with wait := .nothing })
  | _ => (none, { s with wait := .nothing })

/-- Waits for the end of a scope. -/
def awaitEnd (s : Scopes) (scope : Scope) (limit : Nat) : Option (Verdict Nat) × Scopes :=
  let s := { s with wait := .ended scope }
  ((s.proceed? s.now).getD s).await limit

/-- Runs a behaviour inside a scope. -/
def runIn (s : Scopes) (scope : Scope) (b : Behaviour Nat) (limit : Nat) :
    Option (Verdict Nat) × Scopes :=
  let (w, p) := Race.start behaving b 1 scope s.now s.setting
  let wait := match p with
    | .waiting state => .running scope state
    | .finished verdict => .done verdict
  { s with setting := w, wait := wait }.await limit

/-- What watchers saw since this was last asked, in order. -/
def takeFired (s : Scopes) : List (String × ScopeEnd × Nat) × Scopes :=
  (s.fired.reverse, { s with fired := [] })

end Scopes

end CallGuard.Scenario
