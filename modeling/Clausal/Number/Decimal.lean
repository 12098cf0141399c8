import Clausal.Number.Digit
import Clausal.Number.Double

/-!
# Decimal notation

A decimal numeral is a sign, digits with at most one point among or beside them, and an optional
power of ten; `inf`, `infinity` and `nan` are numerals too, in any letter case.  `Numeral.ofText?`
reads one, and `Double.ofText?` rounds it to the nearest number.
-/

namespace Clausal

/-- What a decimal numeral says, before it is rounded. -/
inductive Numeral where
  /-- The number `digits · 10 ^ exponent`, with its sign. -/
  | decimal (negative : Bool) (digits : Nat) (exponent : Int)
  | infinity (negative : Bool)
  /-- The sign for no number. -/
  | nan (negative : Bool)

namespace Numeral

/-- The sign before a numeral: whether it is minus, and the rest of the text. -/
def takeSign : List Char → Bool × List Char
  | '-' :: rest => (true, rest)
  | '+' :: rest => (false, rest)
  | rest => (false, rest)

/-- The power of ten that ends a numeral; the empty text stands for the power zero. -/
def exponent? : List Char → Option Int
  | [] => some 0
  | e :: rest =>
    if e = 'e' || e = 'E' then
      let (negative, digits) := takeSign rest
      if !digits.isEmpty && digits.all Char.isDigit then
        some (if negative then -(Digit.number digits : Int) else Digit.number digits)
      else none
    else none

/-- Digits with a point and a power of ten, after the sign. -/
def unsigned? (negative : Bool) (cs : List Char) : Option Numeral :=
  let whole := cs.takeWhile Char.isDigit
  let afterWhole := cs.dropWhile Char.isDigit
  let (fraction, rest) := match afterWhole with
    | '.' :: more => (more.takeWhile Char.isDigit, more.dropWhile Char.isDigit)
    | more => ([], more)
  if whole.isEmpty && fraction.isEmpty then none
  else (exponent? rest).map fun e =>
    .decimal negative (Digit.number (whole ++ fraction)) (e - fraction.length)

/-- Reads a whole text as a numeral. -/
def ofText? (text : String) : Option Numeral :=
  let (negative, rest) := takeSign text.toList
  let name := rest.map Char.toLower
  if name = ['i', 'n', 'f'] || name = ['i', 'n', 'f', 'i', 'n', 'i', 't', 'y'] then
    some (.infinity negative)
  else if name = ['n', 'a', 'n'] then some (.nan negative)
  else unsigned? negative rest

/-- The code of the value of a format nearest to `digits · 10 ^ exponent`.  Powers of ten far beyond
the range of the format are decided by the number of digits alone. -/
def encode (f : BinaryFormat) (digits : Nat) (exponent : Int) : Nat :=
  if digits = 0 then 0
  else
    let places := exponent + (Nat.repr digits).length
    if places > 400 then f.infinityCode
    else if places < -400 then 0
    else if 0 ≤ exponent then f.encode (digits * Nat.pow 10 exponent.toNat) 1
    else f.encode digits (Nat.pow 10 (-exponent).toNat)

end Numeral

namespace Double

/-- The number nearest to a numeral. -/
def ofNumeral : Numeral → Double
  | .decimal negative digits exponent =>
    ⟨negative, Numeral.encode BinaryFormat.double digits exponent⟩
  | .infinity negative => infinity negative
  | .nan negative => { nan with negative := negative }

/-- The number nearest to a numeral, rounded to the format with thirty-two bits first. -/
def ofNumeralSingle : Numeral → Double
  | .decimal negative digits exponent =>
    ofSingle negative (Numeral.encode BinaryFormat.single digits exponent)
  | .infinity negative => infinity negative
  | .nan negative => { nan with negative := negative }

/-- Reads a text as a number. -/
def ofText? (text : String) : Option Double :=
  (Numeral.ofText? text).map ofNumeral

end Double

end Clausal
