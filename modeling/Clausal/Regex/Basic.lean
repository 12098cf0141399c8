import Clausal.Text.Category
import Clausal.Text.Property

/-!
# Regular expressions

`Regex` is the abstract form of a regular expression: single characters from a set, assertions about
the place in the text, marks that record a place, sequence, choice and bounded or unbounded
repetition.  What it matches is said in `Clausal.Regex.Matching`.

A `Place` splits a text in two: what an assertion can see of it are the characters on both sides.
-/

namespace Clausal

/-- The word characters: letters, marks, decimal digits, connecting punctuation and the two joining
controls. -/
def wordCharacters : CharSet :=
  ((Property.members? "alphabetic").getD CharSet.empty).union <|
    (Category.anyOf [.mn, .mc, .me, .nd, .pc]).union
      ((Property.members? "joincontrol").getD CharSet.empty)

def asciiWordCharacters : CharSet := CharSet.ofText "30-39 41-5A 5F 61-7A"

/-- A place in a text: the characters before it, from the nearest one on, and those after it. -/
structure Place where
  /-- The characters before the place, the nearest one first. -/
  before : List Char
  after : List Char
deriving DecidableEq

namespace Place

def start (text : List Char) : Place := ⟨[], text⟩

def offset (p : Place) : Nat := p.before.length

end Place

/-- What an assertion says about the characters on both sides of a place. -/
inductive Assertion where
  | textStart
  | textEnd
  /-- A line begins here; lines end with a line feed. -/
  | lineStart
  /-- A line ends here; lines end with a line feed. -/
  | lineEnd
  /-- A line begins here; lines end with a line feed, a carriage return, or both. -/
  | returnLineStart
  /-- A line ends here; lines end with a line feed, a carriage return, or both. -/
  | returnLineEnd
  /-- Exactly one of the neighbours is a word character. -/
  | wordBoundary (ascii : Bool)
  /-- Both neighbours are word characters, or neither is. -/
  | noWordBoundary (ascii : Bool)
  | wordStart (ascii : Bool)
  | wordEnd (ascii : Bool)
  | noWordBefore (ascii : Bool)
  | noWordAfter (ascii : Bool)
deriving DecidableEq

namespace Assertion

/-- Whether a neighbour is there and is a word character. -/
def isWord (ascii : Bool) (c : Option Char) : Bool :=
  match c with
  | none => false
  | some c =>
    if c.toNat < 0x80 then asciiWordCharacters.contains c
    else !ascii && wordCharacters.contains c

/-- Whether an assertion holds between two neighbours; a missing neighbour is an end of the text. -/
def holds (a : Assertion) (before after : Option Char) : Bool :=
  match a with
  | textStart => before.isNone
  | textEnd => after.isNone
  | lineStart => before.isNone || before == some '\n'
  | lineEnd => after.isNone || after == some '\n'
  | returnLineStart =>
    before.isNone || before == some '\n' || (before == some '\r' && after != some '\n')
  | returnLineEnd =>
    after.isNone || after == some '\r' || (after == some '\n' && before != some '\r')
  | wordBoundary ascii => isWord ascii before != isWord ascii after
  | noWordBoundary ascii => isWord ascii before == isWord ascii after
  | wordStart ascii => !isWord ascii before && isWord ascii after
  | wordEnd ascii => isWord ascii before && !isWord ascii after
  | noWordBefore ascii => !isWord ascii before
  | noWordAfter ascii => !isWord ascii after

/-- Whether an assertion holds at a place. -/
def holdsAt (a : Assertion) (p : Place) : Bool :=
  a.holds p.before.head? p.after.head?

end Assertion

inductive Regex where
  | empty
  | chars (set : CharSet)
  /-- The empty text, at a place where an assertion holds. -/
  | assert (a : Assertion)
  /-- The empty text; records the place under a number. -/
  | mark (slot : Nat)
  | seq (first second : Regex)
  /-- One of two expressions, the first one by preference. -/
  | alt (first second : Regex)
  /-- An expression at least `min` times and at most `max` times, if there is a limit: as often as
  possible by preference if `greedy`, else as seldom as possible. -/
  | repeated (min : Nat) (max : Option Nat) (greedy : Bool) (body : Regex)
deriving DecidableEq

namespace Regex

def never : Regex := .chars CharSet.empty

def seqs : List Regex → Regex
  | [] => .empty
  | [r] => r
  | r :: rs => .seq r (seqs rs)

/-- One of several expressions, an earlier one by preference. -/
def alts : List Regex → Regex
  | [] => never
  | [r] => r
  | r :: rs => .alt r (alts rs)

/-- The number of the mark at the beginning of a group. -/
def openSlot (group : Nat) : Nat := 2 * group

/-- The number of the mark at the end of a group. -/
def closeSlot (group : Nat) : Nat := 2 * group + 1

/-- An expression between the marks of a group. -/
def group (index : Nat) (r : Regex) : Regex :=
  .seq (.mark (openSlot index)) (.seq r (.mark (closeSlot index)))

def char (c : Char) : Regex := .chars (CharSet.singleton c)

end Regex

end Clausal
