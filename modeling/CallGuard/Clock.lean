/-
The clock: the millisecond grid on which timers fire, where the clock ends, and
the text of a span. An instant is a natural number of nanoseconds since the
clock started, a span a natural number of nanoseconds.

A timer fires at the first whole millisecond at or after its due time
(`Instant.tick`). Everything that waits is woken on that grid only, so a
waiter compares its due time with the clock as it is.
-/
import CallGuard.Word

namespace CallGuard

namespace Span

/-- A span of whole milliseconds. -/
def ofMillis (n : Nat) : Nat := n * 1000000

/-- A span of whole seconds. -/
def ofSeconds (n : Nat) : Nat := n * 1000000000

/-- The longest span there is: its seconds have 64 bits. -/
def longest : Nat := ofSeconds Word.count - 1

/-- Sums stop at the longest span. -/
def add (a b : Nat) : Nat := min (a + b) longest

/-- Whole milliseconds, as many as fit in 64 bits. -/
def millis (d : Nat) : Nat := Word.clamp (d / 1000000)

/-- The longest pause: thirty years of 365 days. -/
def longestPause : Nat := ofSeconds (30 * 365 * 86400)

/-- The digits of `n` after a decimal point, `width` of them, less the zeros
at the end; nothing at all for `n = 0`. -/
def fraction (width n : Nat) : String :=
  let digits := Nat.toDigits 10 n
  let padded := List.replicate (width - digits.length) '0' ++ digits
  match (padded.reverse.dropWhile (· == '0')).reverse with
  | [] => ""
  | shown => "." ++ String.ofList shown

/-- The text of a span: in the largest of the units s, ms, µs and ns of which
it holds at least one, with as many places as it needs. -/
def text (d : Nat) : String :=
  let inUnit (unit width : Nat) (name : String) :=
    toString (d / unit) ++ fraction width (d % unit) ++ name
  if 1000000000 ≤ d then inUnit 1000000000 9 "s"
  else if 1000000 ≤ d then inUnit 1000000 6 "ms"
  else if 1000 ≤ d then inUnit 1000 3 "µs"
  else toString d ++ "ns"

end Span

namespace Instant

/-- The clock ends after as many seconds as 63 bits count. -/
def limit : Nat := Span.ofSeconds (Word.count / 2)

/-- The instant `d` after `t`, if the clock reaches it. -/
def after? (t : Nat) (d : Nat) : Option Nat :=
  if t + d < limit then some (t + d) else none

/-- When a pause of `d` that begins at `t` is over. Nobody pauses for longer
than the longest pause; deadlines may be further away. -/
def pauseEnd (t : Nat) (d : Nat) : Nat := t + min d Span.longestPause

/-- The first whole millisecond at or after `t`. -/
def tick (t : Nat) : Nat := (t + 999999) / 1000000 * 1000000

theorem le_tick (t : Nat) : t ≤ tick t := by unfold tick; omega

theorem tick_lt (t : Nat) : tick t < t + 1000000 := by unfold tick; omega

theorem tick_le_tick {t t' : Nat} (h : t ≤ t') : tick t ≤ tick t' := by
  unfold tick
  omega

/-- A whole millisecond that is no earlier than an instant, and no later than its tick. -/
theorem eq_tick_of_le {due now : Nat} (whole : now % 1000000 = 0) (reached : due ≤ now)
    (within : now ≤ tick due) : now = tick due := by
  unfold tick at within ⊢
  omega

theorem after?_eq_some {t d due : Nat} (h : after? t d = some due) : due = t + d ∧ t + d < limit := by
  unfold after? at h
  split at h
  · rename_i reached
    exact ⟨(Option.some.inj h).symm, reached⟩
  · cases h

theorem le_tick_of_after? {t d due : Nat} (h : after? t d = some due) : t ≤ tick due := by
  obtain ⟨rfl, -⟩ := after?_eq_some h
  exact Nat.le_trans (Nat.le_add_right t d) (le_tick _)

theorem after?_of_le {t t' d d' due' : Nat} (le : t + d ≤ t' + d') (h : after? t' d' = some due') :
    ∃ due, after? t d = some due ∧ due ≤ due' := by
  obtain ⟨rfl, reached⟩ := after?_eq_some h
  exact ⟨t + d, if_pos (by omega), le⟩

theorem after?_mono {t t' d due' : Nat} (le : t ≤ t') (h : after? t' d = some due') :
    ∃ due, after? t d = some due ∧ due ≤ due' := after?_of_le (Nat.add_le_add_right le d) h

end Instant

/-- The earlier of two instants, either of which may never come. -/
def earlier : Option Nat → Option Nat → Option Nat
  | none, b => b
  | a, none => a
  | some a, some b => some (min a b)

theorem earlier_none (a : Option Nat) : earlier a none = a := by
  cases a <;> rfl

theorem earlier_le {a b : Option Nat} {due : Nat} (h : a = some due ∨ b = some due) :
    ∃ d, earlier a b = some d ∧ d ≤ due := by
  rcases h with rfl | rfl
  · cases b with
    | none => exact ⟨due, rfl, Nat.le_refl _⟩
    | some d => exact ⟨_, rfl, Nat.min_le_left due d⟩
  · cases a with
    | none => exact ⟨due, rfl, Nat.le_refl _⟩
    | some d => exact ⟨_, rfl, Nat.min_le_right d due⟩

end CallGuard
