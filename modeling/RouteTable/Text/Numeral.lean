/-
# Numerals

Digits, and the numbers that they write in a base.
-/

import RouteTable.Text.Basic

namespace RouteTable

/-- The most digits of a number that are read or written. -/
def maxNumeralLength : Nat := 4300

namespace Text

/-- The value of a hexadecimal digit; those below ten are the decimal digits. -/
def hexDigit? (c : CodePoint) : Option Nat :=
  if c.isDigit then some (c.toNat - 0x30)
  else if 'a' ≤ c ∧ c ≤ 'f' then some (c.toNat - 0x57)
  else if 'A' ≤ c ∧ c ≤ 'F' then some (c.toNat - 0x37)
  else none

/-- The number that digits write in a base, with what is no digit for a zero. -/
def numeral (base : Nat) (digits : Text) : Nat :=
  digits.foldl (fun n c => base * n + (hexDigit? c).getD 0) 0

example : numeral 16 "1F600".text = 0x1F600 := by decide +kernel
example : numeral 8 "400".text = 256 := by decide +kernel

end Text
end RouteTable
