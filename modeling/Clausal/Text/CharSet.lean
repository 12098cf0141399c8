import Clausal.Number.Digit

/-!
# Sets of characters

A set of characters is kept as a list of closed intervals of code points, its *spans*.
`CharSet.contains` is the meaning of a set; the operations build sets by union, complement,
intersection and the two differences.  Every set made here keeps its spans in increasing order
with a gap between neighbours, so one set of characters has one representation.
-/

namespace Clausal

/-- A closed, non-empty interval of code points. -/
structure Span where
  lo : Nat
  hi : Nat
  lo_le_hi : lo ≤ hi
deriving DecidableEq

namespace Span

/-- The interval that has the two code points as its ends, in either order. -/
def between (a b : Nat) : Span :=
  ⟨min a b, max a b, by omega⟩

def single (a : Nat) : Span :=
  ⟨a, a, Nat.le_refl a⟩

def contains (s : Span) (n : Nat) : Bool :=
  s.lo ≤ n && n ≤ s.hi

def inter? (s t : Span) : Option Span :=
  if h : max s.lo t.lo ≤ min s.hi t.hi then some ⟨max s.lo t.lo, min s.hi t.hi, h⟩ else none

end Span

/-- A set of characters, as a list of intervals of code points. -/
structure CharSet where
  /-- The intervals, in increasing order and with a gap between neighbours. -/
  spans : List Span
deriving DecidableEq

namespace CharSet

def maxCode : Nat := 0x10FFFF

def containsCode (s : CharSet) (n : Nat) : Bool :=
  s.spans.any (·.contains n)

def contains (s : CharSet) (c : Char) : Bool :=
  s.containsCode c.toNat

/-- Adds one interval to an ordered list of them, joining it with those that it touches. -/
def insertSpan (s : Span) : List Span → List Span
  | [] => [s]
  | r :: rs =>
    if s.hi + 1 < r.lo then s :: r :: rs
    else if r.hi + 1 < s.lo then r :: insertSpan s rs
    else insertSpan ⟨min s.lo r.lo, max s.hi r.hi, by have := s.lo_le_hi; omega⟩ rs

/-- The set of the code points of any of the intervals. -/
def ofSpans (spans : List Span) : CharSet :=
  ⟨spans.foldr insertSpan []⟩

def empty : CharSet := ⟨[]⟩

def all : CharSet := ⟨[Span.between 0 maxCode]⟩

def singleton (c : Char) : CharSet := ⟨[Span.single c.toNat]⟩

/-- The set of the characters between two characters, both included. -/
def range (a b : Char) : CharSet := ⟨[Span.between a.toNat b.toNat]⟩

def union (a b : CharSet) : CharSet :=
  ofSpans (a.spans ++ b.spans)

/-- The gaps that an ordered list of intervals leaves from the code point `start` on. -/
def gaps (start : Nat) : List Span → List Span
  | [] => if h : start ≤ maxCode then [⟨start, maxCode, h⟩] else []
  | r :: rs =>
    if h : start < r.lo then ⟨start, r.lo - 1, by omega⟩ :: gaps (r.hi + 1) rs
    else gaps (r.hi + 1) rs

def complement (s : CharSet) : CharSet :=
  ⟨gaps 0 s.spans⟩

def inter (a b : CharSet) : CharSet :=
  (a.complement.union b.complement).complement

def diff (a b : CharSet) : CharSet :=
  (a.complement.union b).complement

def symmDiff (a b : CharSet) : CharSet :=
  (a.diff b).union (b.diff a)

/-- Reads a list of intervals such as `41-5A 5F`: hexadecimal ends with a hyphen between them, a
lone number for an interval of one, blanks between intervals.  The state is the number being read,
the lower end that came before a hyphen, and whether a number has begun. -/
def readSpans (low : Option Nat) (value : Nat) (begun : Bool) : List Char → List Span
  | [] => if begun then [Span.between (low.getD value) value] else []
  | c :: rest =>
    if c = '-' then readSpans (some value) 0 false rest
    else if c.isWhitespace then
      if begun then Span.between (low.getD value) value :: readSpans none 0 false rest
      else readSpans none 0 false rest
    else readSpans low (16 * value + (Digit.hexValue? c).getD 0) true rest

/-- The set that a written list of intervals denotes. -/
def ofText (text : String) : CharSet :=
  ofSpans (readSpans none 0 false text.toList)

instance : Union CharSet := ⟨union⟩
instance : Inter CharSet := ⟨inter⟩
instance : EmptyCollection CharSet := ⟨empty⟩

end CharSet

end Clausal
