import Clausal.Json.Basic
import Clausal.Number.Decimal

/-!
# Numbers in JSON

`Json.Numeral` is a number as it is written.  Its value is found in two rounded steps: as many
leading digits as fit into sixty-four bits are taken as an integer, and that is multiplied or
divided by a power of ten.  Digits after those are dropped, which can put the value next to the
nearest number.  A number beyond the greatest one is no number at all.
-/

namespace Clausal

namespace Json

/-- A number as it is written. -/
structure Numeral where
  negative : Bool
  /-- The digits before the point. -/
  whole : List Char
  /-- The digits after the point, if there is a point. -/
  fraction : Option (List Char)
  /-- The power of ten, if one is written: whether it is negative, and its digits. -/
  exponent : Option (Bool × List Char)

namespace Numeral

/-- The greatest integer of sixty-four bits. -/
def maxInteger : Nat := 0xFFFFFFFFFFFFFFFF

/-- The greatest power of ten that one step multiplies by. -/
def maxPower : Nat := 308

/-- Powers of ten beyond this one are not counted. -/
def maxExponent : Nat := 0x7FFFFFFF

/-- Reads digits after a value as long as the result fits into sixty-four bits; returns the value,
how many digits it took, and how many are left. -/
def takeDigits (value taken : Nat) : List Char → Nat × Nat × Nat
  | [] => (value, taken, 0)
  | c :: rest =>
    let more := 10 * value + Digit.value c
    if maxInteger < more then (value, taken, rest.length + 1)
    else takeDigits more (taken + 1) rest

def powerOfTen (n : Nat) : Double := Double.ofNat (Nat.pow 10 n)

/-- Divides by powers of ten until the exponent is in range; the bound is not reached. -/
def scaleDown : Nat → Double → Nat → Double
  | 0, _, _ => Double.zero
  | bound + 1, x, n =>
    if n ≤ maxPower then x.div (powerOfTen n)
    else if x.code = 0 then x
    else scaleDown bound (x.div (powerOfTen maxPower)) (n - maxPower)

/-- The product of an integer and a power of ten; nothing if it is too great. -/
def scale (significand : Nat) (exponent : Int) : Option Double :=
  let x := Double.ofNat significand
  if exponent < 0 then some (scaleDown 8 x exponent.natAbs)
  else if exponent.natAbs ≤ maxPower then
    let product := x.mul (powerOfTen exponent.natAbs)
    if product.isInfinite then none else some product
  else if significand = 0 then some x
  else none

/-- A number with a sign. -/
def signed (negative : Bool) (x : Double) : Double := if negative then x.neg else x

/-- The value of a numeral that is no integer of sixty-four bits. -/
def toDouble? (n : Numeral) : Option Double :=
  let (wholeValue, _, dropped) := takeDigits 0 0 n.whole
  let (significand, taken, _) := takeDigits wholeValue 0 (n.fraction.getD [])
  let start : Int := dropped - taken
  match n.exponent with
  | none => (scale significand start).map (signed n.negative)
  | some (negativePower, digits) =>
    let power := Digit.number digits
    if maxExponent < power then
      if significand != 0 && !negativePower then none
      else some (signed n.negative Double.zero)
    else
      let total : Int := if negativePower then start - power else start + power
      (scale significand total).map (signed n.negative)

/-- The value of a numeral, if it is not too great.  Zero with a minus sign is no integer. -/
def toNumber? (n : Numeral) : Option Number :=
  let value := Digit.number n.whole
  if n.fraction.isNone && n.exponent.isNone then
    if !n.negative && value ≤ maxInteger then some (.integer value)
    else if n.negative && 0 < value && value ≤ 0x8000000000000000 then some (.integer (-value))
    else n.toDouble?.map .float
  else n.toDouble?.map .float

end Numeral

end Json

end Clausal
