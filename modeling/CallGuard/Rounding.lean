/-
Rounding of quotients to the nearest whole number, to the nearest number of 53
binary digits, and to a text with two places. A tie goes to the even
neighbour.
-/
namespace CallGuard.Rounding

/-- `n / d` to the nearest whole number. -/
def nearest (n d : Nat) : Nat :=
  if 2 * (n % d) < d then n / d
  else if d < 2 * (n % d) then n / d + 1
  else if n / d % 2 = 0 then n / d
  else n / d + 1

/-- A fraction of whole numbers. -/
structure Fraction where
  num : Nat
  den : Nat
  deriving DecidableEq, Repr

namespace Fraction

/-- The nearest fraction with 53 significant binary digits, for a fraction of at
least `2 ^ -76`. -/
def toBinary (q : Fraction) : Fraction :=
  let scaled := q.num * Nat.pow 2 128
  let digit := Nat.pow 2 ((scaled / q.den).log2 - 52)
  ⟨nearest scaled (q.den * digit) * digit, Nat.pow 2 128⟩

/-- The sum of two fractions. -/
def add (p q : Fraction) : Fraction := ⟨p.num * q.den + q.num * p.den, p.den * q.den⟩

/-- The quotient of two fractions. -/
def div (p q : Fraction) : Fraction := ⟨p.num * q.den, p.den * q.num⟩

/-- The fraction with two decimal places. -/
def twoPlaces (q : Fraction) : String :=
  let hundredths := nearest (q.num * 100) q.den
  let rest := hundredths % 100
  toString (hundredths / 100) ++ "." ++ toString (rest / 10) ++ toString (rest % 10)

end Fraction

end CallGuard.Rounding
