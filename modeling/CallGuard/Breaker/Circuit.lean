/-
A breaker in use: calls go through it, its changes and failures are reported to
hooks, and a hook may make a call on the same breaker. An operation may itself
make calls before it ends. All of it happens at the circuit's own time, which
moves only when an operation takes time.
-/
import CallGuard.Journal

namespace CallGuard

/-- What a caller gets from a guarded call. -/
inductive CallResult where
  | value (n : Nat)
  | rejected
  | failed (f : Failure)
  | panicked
  deriving DecidableEq, Repr

namespace CallResult

/-- The text of a result that is an error. -/
def text? : CallResult → Option String
  | rejected => some Failure.circuitOpen.text
  | failed f => some f.text
  | _ => none

/-- A rejection as a failure of its own kind, a failed operation as what it
is. -/
def failure? : CallResult → Option Failure
  | rejected => some .circuitOpen
  | failed f => some f
  | _ => none

/-- The operation's failure, if there was an operation. -/
def operation? : CallResult → Option Failure
  | failed f => some f
  | _ => none

end CallResult

/-- What a caller gets from a call, and what the operation got from the calls
it made. -/
inductive CallReply where
  | mk (result : CallResult) (inner : List CallReply)

namespace CallReply

/-- How the call itself was answered. -/
def result : CallReply → CallResult
  | mk result _ => result

/-- The answers to the calls that its operation made. -/
def inner : CallReply → List CallReply
  | mk _ inner => inner

end CallReply

/-- A call: the calls that its operation makes, one after the other, the time
it takes after those, and how it ends. -/
inductive Call where
  | mk (inner : List Call) (takes : Nat) (outcome : Outcome Nat)

/-- What hooks are told. -/
inductive Notice where
  | changed (change : CircuitChange)
  | failed (f : Failure)
  deriving DecidableEq, Repr

/-- What a hook can read off the breaker. -/
structure CircuitView where
  state : CircuitState
  failures : Nat
  successes : Nat
  deriving DecidableEq, Repr

/-- What can be seen of a breaker. -/
def Breaker.view (b : Breaker) : CircuitView := ⟨b.state, b.failures, b.successes⟩

/-- What hooks did: heard a notice, seeing the breaker as it was then, or made
a call. -/
inductive HookEvent where
  | heard (notice : Notice) (seen : CircuitView)
  | called (reply : CallReply)

/-- A breaker in use by one thread, with its clock, and what was written and heard so far. -/
structure Circuit where
  breaker : Breaker
  now : Nat
  journal : Journal
  /-- What hooks did so far, the latest first. -/
  events : List HookEvent

namespace Circuit

/-- Writes an entry into the journal. -/
def log (c : Circuit) (entry : Entry) : Circuit := { c with journal := entry :: c.journal }

/-- A listener takes in a notice, and may use the circuit. -/
abbrev Listener := Notice → Circuit → Circuit

/-- Reports a change of state, if there was one. -/
def announce (listen : Listener) : Option CircuitChange → Circuit → Circuit
  | none, c => c
  | some change, c => listen (.changed change) (c.log (.circuitChanged change))

/-- Asks to be let through. -/
def ask (listen : Listener) (c : Circuit) : Bool × Circuit :=
  let (admitted, breaker, change) := c.breaker.ask c.now
  let c := announce listen change { c with breaker := breaker }
  (admitted, c.log (if admitted then .callAdmitted c.breaker.state else .callRejected))

/-- Takes in how an admitted call ended. A panic leaves no trace. -/
def conclude {α : Type} (listen : Listener) : Outcome α → Circuit → Circuit
  | .value _, c =>
    let (breaker, change) := c.breaker.succeed
    announce listen change { c with breaker := breaker }
  | .failure f, c =>
    let (breaker, change) := c.breaker.fail c.now
    listen (.failed f) (announce listen change { c with breaker := breaker })
  | .panic _, c => c

/-- What a call returns, by what its operation ended with. -/
def resultOf : Outcome Nat → CallResult
  | .value n => .value n
  | .failure f => .failed f
  | .panic _ => .panicked

mutual

/-- Makes a call from beginning to end. -/
def perform (listen : Listener) : Call → Circuit → CallReply × Circuit
  | .mk inner takes outcome, c =>
    let (admitted, c) := c.ask listen
    if admitted then
      let (replies, c) := performAll listen inner c
      let c := conclude listen outcome { c with now := c.now + takes }
      (.mk (resultOf outcome) replies, c)
    else (.mk .rejected [], c)

/-- Makes calls one after the other. -/
def performAll (listen : Listener) : List Call → Circuit → List CallReply × Circuit
  | [], c => ([], c)
  | call :: calls, c =>
    let (reply, c) := perform listen call c
    let (replies, c) := performAll listen calls c
    (reply :: replies, c)

end

/-- Which notices have a hook, and the call that a hook makes on one. -/
structure Hooks where
  onChange : Bool
  onError : Bool
  reaction : Notice → Option Call

namespace Hooks

/-- No notice has a hook. -/
def silent : Hooks := ⟨false, false, fun _ => none⟩

/-- Whether a notice has a hook. -/
def hears (hooks : Hooks) : Notice → Bool
  | .changed _ => hooks.onChange
  | .failed _ => hooks.onError

end Hooks

/-- The listener that runs hooks. Hooks make calls while they run inside fewer
than `depth` other hooks. -/
def runHooks (hooks : Hooks) : (depth : Nat) → Listener
  | depth, notice, c =>
    if hooks.hears notice then
      let c := { c with events := .heard notice c.breaker.view :: c.events }
      match depth, hooks.reaction notice with
      | depth + 1, some call =>
        let (reply, c) := c.perform (runHooks hooks depth) call
        { c with events := .called reply :: c.events }
      | _, _ => c
    else c

end Circuit

end CallGuard
