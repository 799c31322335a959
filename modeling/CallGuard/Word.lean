/-
Numbers of 64 bits: what comes after the last one is the last one again, where
a number stops there, or zero, where it starts over.
-/
namespace CallGuard.Word

/-- How many there are, two to the power of 64. -/
def count : Nat := 18446744073709551616

/-- The last number that fits. -/
def last : Nat := count - 1

/-- Stops at the last number. -/
def clamp (n : Nat) : Nat := min n last

/-- Starts over after the last number. -/
def wrap (n : Nat) : Nat := n % count

theorem clamp_of_le {n : Nat} (h : n ≤ last) : clamp n = n := Nat.min_eq_left h

theorem wrap_of_le {n : Nat} (h : n ≤ last) : wrap n = n :=
  Nat.mod_eq_of_lt (by unfold last at h; unfold count at *; omega)

end CallGuard.Word
