import Clausal.Number.Double

/-!
# Shortest decimal text

A number is written with the fewest digits that no other number reads back from, and of those with
the digits nearest to it.  There is never a power of ten: zeros fill the places up to the point.

The search works on natural numbers.  The number and the ends of the interval of the reals that
round to it are multiplied by a power of ten that makes every decimal grid in question a grid of
integers.
-/

namespace Clausal

namespace Shortest

/-- The power of ten by which all quantities are multiplied. -/
def places : Nat := 400

/-- Digits and the place of the point: the number `0.d₁d₂… · 10 ^ point`. -/
structure Digits where
  digits : Nat
  /-- How many places the point lies to the right of the first digit's left side. -/
  point : Int

/-- A positive number and the reals that round to it, scaled: all three are multiples of the same
unit, and `one` is the unit's reciprocal on the decimal grid. -/
structure Target where
  value : Nat
  low : Nat
  high : Nat
  /-- Whether the ends belong to the interval. -/
  closed : Bool
  /-- The distance of neighbours on the finest decimal grid. -/
  one : Nat

/-- The target of the magnitude of a finite number that is not zero. -/
def Target.ofDouble (x : Double) : Target :=
  let f := BinaryFormat.double
  let m := f.significand x.code
  let gap := 1 <<< f.scale x.code
  let lower := if m = 1 <<< f.fractionBits && 0 < f.scale x.code then gap else 2 * gap
  let ten := Nat.pow 10 places
  { value := 4 * m * gap * ten
    low := (4 * m * gap - lower) * ten
    high := (4 * m * gap + 2 * gap) * ten
    closed := m % 2 = 0
    one := 1 <<< (f.depth + 2) }

/-- Whether a real of the scale rounds to the number. -/
def Target.contains (t : Target) (n : Nat) : Bool :=
  if t.closed then t.low ≤ n && n ≤ t.high else t.low < n && n < t.high

/-- The point of a decimal grid that rounds to the number and is nearest to it, if there is one.  A
tie goes up. -/
def Target.onGrid? (t : Target) (step : Nat) : Option Nat :=
  let below := t.value / step
  let above := below + 1
  let belowFits := t.contains (below * step)
  let aboveFits := t.contains (above * step)
  if belowFits && aboveFits then
    if above * step - t.value ≤ t.value - below * step then some above else some below
  else if belowFits then some below
  else if aboveFits then some above
  else none

/-- The first grid among those with `n`, `n + 1`, … digits that has a point which rounds to the
number; `count` bounds the search. -/
def Target.search (t : Target) (point : Int) : Nat → Nat → Digits
  | _, 0 => ⟨0, point⟩
  | n, count + 1 =>
    let step := Nat.pow 10 (point - n + places).toNat * t.one
    match t.onGrid? step with
    | some d => ⟨d, point + ((Nat.repr d).length - n : Int)⟩
    | none => t.search point (n + 1) count

/-- The shortest digits of a finite number that is not zero; seventeen always suffice. -/
def digits (x : Double) : Digits :=
  let t := Target.ofDouble x
  let point : Int := (Nat.repr (t.value / t.one)).length - (places : Int)
  t.search point 1 17

/-- The characters without the zeros at their end. -/
def dropTrailingZeros (cs : List Char) : List Char :=
  (cs.reverse.dropWhile (· == '0')).reverse

def positional (d : Digits) : List Char :=
  let cs := dropTrailingZeros (Nat.toDigits 10 d.digits)
  if d.point ≤ 0 then '0' :: '.' :: List.replicate (-d.point).toNat '0' ++ cs
  else
    let n := d.point.toNat
    if n < cs.length then cs.take n ++ '.' :: cs.drop n
    else cs ++ List.replicate (n - cs.length) '0'

end Shortest

def Double.toText (x : Double) : String :=
  if x.isNaN then "NaN"
  else
    let sign := if x.negative then ['-'] else []
    String.ofList <| sign ++
      if x.isInfinite then ['i', 'n', 'f']
      else if x.code = 0 then ['0']
      else Shortest.positional (Shortest.digits x)

end Clausal
