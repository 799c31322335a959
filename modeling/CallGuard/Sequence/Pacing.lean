/-
How often a sequence may be fetched anew, and how long a fetch may take.
-/
import CallGuard.Failure

namespace CallGuard.Sequence

/-- How often a sequence may be fetched anew, and how long a fetch may take. -/
structure Pacing where
  /-- Fetches closer together than this are refused. -/
  interval : Nat
  /-- The longest time a fetch may take; it needs some. -/
  timeout : Nat
  timeout_pos : 0 < timeout
  deriving Repr

namespace Pacing

/-- The pacing where none is chosen. -/
def standard : Pacing := ⟨Span.ofSeconds 5, Span.ofSeconds 10, by decide⟩

/-- A timeout of zero is refused; an interval of zero is allowed. -/
def new (interval timeout : Nat) : Except Failure Pacing :=
  if h : timeout = 0 then .error (.plain "refetch_timeout must be greater than 0")
  else .ok ⟨interval, timeout, Nat.pos_of_ne_zero h⟩

/-- The description of a pacing. -/
def describe (p : Pacing) : String :=
  "NonceTrackerConfig \x7b force_refetch_interval: " ++ Span.text p.interval ++
    ", refetch_timeout: " ++ Span.text p.timeout ++ " \x7d"

/-- The settings given so far, the latest of each kind. -/
structure Draft where
  interval : Option Nat
  timeout : Option Nat

namespace Draft

/-- Nothing is set. -/
def empty : Draft := ⟨none, none⟩

/-- One setting. -/
inductive Choice where
  | interval (d : Nat)
  | timeout (d : Nat)

/-- Makes a choice. The latest of its kind counts. -/
def set (draft : Draft) : Choice → Draft
  | .interval d => { draft with interval := some d }
  | .timeout d => { draft with timeout := some d }

/-- Both settings, or neither. -/
def build (draft : Draft) : Except Failure Pacing :=
  match draft.interval, draft.timeout with
  | some interval, some timeout => new interval timeout
  | none, none => .ok standard
  | _, _ =>
    .error (.plain ("force_refetch_interval and refetch_timeout must be set together; " ++
      "either both custom or neither"))

end Draft

end Pacing

end CallGuard.Sequence
