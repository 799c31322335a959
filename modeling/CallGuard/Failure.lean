/-
Failures: what went wrong at the root, under any number of explanations added
on the way out. A failure is read as a chain of texts, outermost first, and is
asked which kinds of cause it carries.
-/
import CallGuard.Clock

namespace CallGuard

/-- Why a scope ended. -/
inductive ScopeEnd where
  | cancelled
  | deadlineExceeded
  deriving DecidableEq, Repr

/-- What is said of the end of a scope. -/
def ScopeEnd.text : ScopeEnd → String
  | .cancelled => "scope cancelled"
  | .deadlineExceeded => "scope deadline exceeded"

/-- What can go wrong, in the work itself or around it. -/
inductive Failure where
  /-- A failure known by its text alone. -/
  | plain (text : String)
  /-- The scope of the work ended. -/
  | scope (reason : ScopeEnd)
  /-- Processing an item panicked. -/
  | panicked (message : String)
  /-- The processor was stopped before it was started. -/
  | notStarted
  /-- The circuit breaker let no call through. -/
  | circuitOpen
  /-- A sequence was fetched too short a time ago. -/
  | throttled (elapsed interval : Nat)
  /-- The scope of a sequence fetch ended. -/
  | fetchEnded (reason : ScopeEnd)
  /-- A sequence fetch failed by itself. -/
  | fetchFailed (cause : Failure)
  /-- An explanation on top of a failure. -/
  | context (text : String) (cause : Failure)
  /-- The retry budget ran out; the cause is the last attempt's failure. -/
  | exhausted (elapsed : Nat) (attempts : Nat) (cause : Failure)
  deriving DecidableEq, Repr

namespace Failure

/-- What is said of a retry budget that ran out. -/
def exhaustedText (elapsed : Nat) (attempts : Nat) : String :=
  "operation timed out after " ++ Span.text elapsed ++ " (" ++ toString attempts ++ " attempts)"

/-- What is said of a fetch that came too soon. -/
def throttledText (elapsed interval : Nat) : String :=
  "failed to force refetch: " ++ Span.text elapsed ++
    " since last refetch, force refetch interval " ++ Span.text interval

/-- All texts of a failure, outermost first. A failed fetch adds none of its
own. -/
def chain : Failure → List String
  | plain text => [text]
  | scope reason => [reason.text]
  | panicked message => ["request processor panicked: " ++ message]
  | notStarted => ["processor stopped before it was started"]
  | circuitOpen => ["circuit breaker is open"]
  | throttled elapsed interval => [throttledText elapsed interval]
  | fetchEnded reason => [reason.text]
  | fetchFailed cause => cause.chain
  | context text cause => text :: cause.chain
  | exhausted elapsed attempts cause => exhaustedText elapsed attempts :: cause.chain

/-- The outermost text. -/
def text : Failure → String
  | plain text => text
  | scope reason => reason.text
  | panicked message => "request processor panicked: " ++ message
  | notStarted => "processor stopped before it was started"
  | circuitOpen => "circuit breaker is open"
  | throttled elapsed interval => throttledText elapsed interval
  | fetchEnded reason => reason.text
  | fetchFailed cause => cause.text
  | context text _ => text
  | exhausted elapsed attempts _ => exhaustedText elapsed attempts

theorem head?_chain (f : Failure) : f.chain.head? = some f.text := by
  induction f with
  | fetchFailed _ ih => exact ih
  | _ => rfl

/-- The whole chain on one line. -/
def rendered (f : Failure) : String := ": ".intercalate f.chain

/-- The kinds of cause that can be told apart from outside. -/
inductive Kind where
  | exhausted
  | scope (reason : ScopeEnd)
  | panicked
  | notStarted
  | circuitOpen
  | throttled
  | fetchEnded (reason : ScopeEnd)
  | fetchFailed
  deriving DecidableEq, Repr

/-- Whether a failure carries a kind, at its root or in an explanation. A
failed fetch hides the kinds of its own cause. -/
def is (k : Kind) : Failure → Bool
  | plain _ => false
  | scope reason => k == .scope reason
  | panicked _ => k == .panicked
  | notStarted => k == .notStarted
  | circuitOpen => k == .circuitOpen
  | throttled _ _ => k == .throttled
  | fetchEnded reason => k == .fetchEnded reason
  | fetchFailed _ => k == .fetchFailed
  | context _ cause => cause.is k
  | exhausted _ _ cause => k == .exhausted || cause.is k

/-- Every kind, in the order in which kinds are listed. -/
def Kind.all : List Kind :=
  [.exhausted, .scope .cancelled, .scope .deadlineExceeded, .panicked, .notStarted, .circuitOpen,
    .throttled, .fetchEnded .cancelled, .fetchEnded .deadlineExceeded, .fetchFailed]

/-- All kinds that a failure is of. -/
def kinds (f : Failure) : List Kind := Kind.all.filter (f.is ·)

/-- How long and how often was tried, for a failure under which a retry budget
ran out. -/
def exhaustion? : Failure → Option (Nat × Nat)
  | exhausted elapsed attempts _ => some (elapsed, attempts)
  | context _ cause => cause.exhaustion?
  | _ => none

/-- How long ago the last fetch was and how long it should have been, for a
fetch refused at the root. -/
def throttle? : Failure → Option (Nat × Nat)
  | throttled elapsed interval => some (elapsed, interval)
  | _ => none

end Failure

/-- How a piece of work ends: with a value, with a failure, or by a panic,
which is neither. A panic carries a message if its payload is text. -/
inductive Outcome (α : Type) where
  | value (a : α)
  | failure (f : Failure)
  | panic (message : Option String)
  deriving DecidableEq, Repr

end CallGuard
