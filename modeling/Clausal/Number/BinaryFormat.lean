/-!
# Binary floating-point formats

A format fixes how many bits a significand has and which powers of two are the least and the
greatest.  Its non-negative values have *codes*: the values in increasing order are those of the
codes `0`, `1`, `2`, …, up to the code of infinity.  `BinaryFormat.encode` finds the code of the
value nearest to a ratio, and `BinaryFormat.units` is the value of a code, counted in the least
positive value of the format.
-/

namespace Clausal

/-- A quotient rounded to the nearest natural number; a half goes to the even neighbour. -/
def roundHalfEven (num den : Nat) : Nat :=
  let q := num / den
  let r := num % den
  if den < 2 * r || (den = 2 * r && q % 2 = 1) then q + 1 else q

/-- A binary floating-point format. -/
structure BinaryFormat where
  /-- The number of bits of a fraction: a normal significand has one bit more. -/
  fractionBits : Nat
  /-- The least positive value is two to the power of minus this number. -/
  depth : Nat
  /-- The exponent field of infinity. -/
  topExponent : Nat

namespace BinaryFormat

/-- The format with sixty-four bits. -/
def double : BinaryFormat := ⟨52, 1074, 2047⟩

/-- The format with thirty-two bits. -/
def single : BinaryFormat := ⟨23, 149, 255⟩

variable (f : BinaryFormat)

def infinityCode : Nat := f.topExponent <<< f.fractionBits

/-- The exponent field of a code. -/
def exponentField (code : Nat) : Nat := code >>> f.fractionBits

/-- The significand of a code: the fraction, with a leading one if the value is normal. -/
def significand (code : Nat) : Nat :=
  let hidden := 1 <<< f.fractionBits
  let fraction := code % hidden
  if f.exponentField code = 0 then fraction else hidden + fraction

/-- The power of two by which the significand of a code is multiplied. -/
def scale (code : Nat) : Nat := f.exponentField code - 1

/-- The value of a code, in multiples of the least positive value. -/
def units (code : Nat) : Nat := f.significand code <<< f.scale code

/-- The code of the value nearest to a ratio, of two equally near ones that with the even
significand; ratios beyond the greatest finite value round to infinity. -/
def encode (num den : Nat) : Nat :=
  let scaled := num <<< f.depth
  let shift := (scaled / den).log2 - f.fractionBits
  min ((shift <<< f.fractionBits) + roundHalfEven scaled (den <<< shift)) f.infinityCode

end BinaryFormat

end Clausal
