/-
What a processor counts. Counts have 64 bits and start over after the last.
-/
import CallGuard.Word

namespace CallGuard

/-- How often each thing has happened in a processor, in words that start over. -/
structure Counters where
  submitted : Nat
  rejected : Nat
  succeeded : Nat
  failed : Nat
  timedOut : Nat
  discarded : Nat
  deriving DecidableEq, Repr

namespace Counters

/-- Nothing has happened. -/
def zero : Counters := ⟨0, 0, 0, 0, 0, 0⟩

/-- One more, in 64 bits. -/
def next (n : Nat) : Nat := Word.wrap (n + 1)

/-- What can happen to an item. A timeout is also a failure. -/
inductive Event where
  | submitted
  | rejected
  | success
  | failure
  | timeout
  | discarded
  deriving DecidableEq, Repr

/-- Counts one more event. A timeout is a failure, too. -/
def record (c : Counters) : Event → Counters
  | .submitted => { c with submitted := next c.submitted }
  | .rejected => { c with rejected := next c.rejected }
  | .success => { c with succeeded := next c.succeeded }
  | .failure => { c with failed := next c.failed }
  | .timeout => { c with timedOut := next c.timedOut, failed := next c.failed }
  | .discarded => { c with discarded := next c.discarded }

/-- Items with an outcome, as many as fit in 64 bits. -/
def processed (c : Counters) : Nat := Word.clamp (c.succeeded + c.failed)

end Counters

end CallGuard
