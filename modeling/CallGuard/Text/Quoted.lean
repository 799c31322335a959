/-
Quoted text: between double quotes, with a backslash before what cannot stand
for itself. Unprintable characters, and those that extend the one before them,
are written by their number.
-/
import CallGuard.Text.Lowercase
import CallGuard.Text.PrintTable

namespace CallGuard.Text

/-- How a character is written between quotes. -/
def escape (c : Char) : List Char :=
  if c = Char.ofNat 0 then ['\\', '0']
  else if c = '\t' then ['\\', 't']
  else if c = '\r' then ['\\', 'r']
  else if c = '\n' then ['\\', 'n']
  else if c = '"' || c = '\\' then ['\\', c]
  else if inRanges graphemeExtendRanges c || !inRanges printableRanges c then
    ['\\', 'u', '\x7b'] ++ Nat.toDigits 16 c.toNat ++ ['\x7d']
  else [c]

/-- A text in quotes, with what has to be escaped. -/
def quoted (s : String) : String := String.ofList ('"' :: s.toList.flatMap escape ++ ['"'])

end CallGuard.Text
