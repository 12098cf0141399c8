/-!
# Digits

The numbers that digits denote: `Digit.value` and `Digit.hexValue?` are for one digit, and
`Digit.number` is for a run of decimal ones.
-/

namespace Clausal

namespace Digit

def value (c : Char) : Nat := c.toNat - '0'.toNat

/-- The number that a run of decimal digits denotes. -/
def number (cs : List Char) : Nat :=
  cs.foldl (fun n c => 10 * n + value c) 0

/-- The value of a hexadecimal digit, in either letter case. -/
def hexValue? (c : Char) : Option Nat :=
  if '0' ≤ c && c ≤ '9' then some (c.toNat - '0'.toNat)
  else if 'a' ≤ c && c ≤ 'f' then some (c.toNat - 'a'.toNat + 10)
  else if 'A' ≤ c && c ≤ 'F' then some (c.toNat - 'A'.toNat + 10)
  else none

end Digit

end Clausal
