import Clausal.Number.BinaryFormat

/-!
# Numbers of sixty-four bits

The numbers of the program are those of the binary floating-point format with sixty-four bits.
They are kept as sign and code, so that comparing and rounding are exact arithmetic on integers.
`Double.rank` places every number but the one that is no number on a line of integers;
`Double.compare?` is the order of ranks.
-/

namespace Clausal

/-- A number of the binary format with sixty-four bits. -/
structure Double where
  negative : Bool
  /-- The code of the magnitude; codes above that of infinity stand for no number. -/
  code : Nat
deriving DecidableEq

namespace Double

def zero : Double := ⟨false, 0⟩

/-- The result of operations that have none. -/
def nan : Double := ⟨false, BinaryFormat.double.infinityCode + 1⟩

/-- The infinity of a sign. -/
def infinity (negative : Bool) : Double := ⟨negative, BinaryFormat.double.infinityCode⟩

/-- Whether this stands for no number. -/
def isNaN (x : Double) : Bool := BinaryFormat.double.infinityCode < x.code

def isInfinite (x : Double) : Bool := x.code = BinaryFormat.double.infinityCode

/-- Whether this is a number and not infinite. -/
def isFinite (x : Double) : Bool := x.code < BinaryFormat.double.infinityCode

/-- The magnitude in multiples of the least positive number. -/
def units (x : Double) : Nat := BinaryFormat.double.units x.code

/-- The place of a number on the line: its magnitude with its sign.  Both zeros have the same place,
and the infinities lie beyond all others. -/
def rank (x : Double) : Int := if x.negative then -(x.units : Int) else x.units

/-- How two numbers compare, unless one of them is no number. -/
def compare? (x y : Double) : Option Ordering :=
  if x.isNaN || y.isNaN then none else some (compare x.rank y.rank)

/-- Numeric equality: the zeros are equal, and what is no number equals nothing. -/
def beq (x y : Double) : Bool := !x.isNaN && !y.isNaN && x.rank == y.rank

instance : BEq Double := ⟨beq⟩

/-- The number of a sign that is nearest to a ratio. -/
def ofRatio (negative : Bool) (num den : Nat) : Double :=
  ⟨negative, BinaryFormat.double.encode num den⟩

def ofNat (n : Nat) : Double := ofRatio false n 1

def ofInt (n : Int) : Double := ofRatio (n < 0) n.natAbs 1

def neg (x : Double) : Double := { x with negative := !x.negative }

/-- The product of two finite numbers, rounded once. -/
def mul (x y : Double) : Double :=
  ofRatio (x.negative != y.negative) (x.units * y.units)
    (1 <<< (2 * BinaryFormat.double.depth))

/-- The quotient of two finite numbers, rounded once; the second is not zero. -/
def div (x y : Double) : Double :=
  ofRatio (x.negative != y.negative) x.units y.units

/-- The number that equals the value of a code of the format with thirty-two bits. -/
def ofSingle (negative : Bool) (code : Nat) : Double :=
  let single := BinaryFormat.single
  if code < single.infinityCode then ofRatio negative (single.units code) (1 <<< single.depth)
  else infinity negative

end Double

end Clausal
