import Clausal.Regex.Fault

/-!
# Regular expressions as they are written

`Tree` is a regular expression the way its text is built up: flags have not been applied and names
of classes have not been looked up.  What can be at fault knows its extent in the text.
`Tree.tooDeep?` finds a part that is nested too deeply.
-/

namespace Clausal

namespace Regex

/-- The flags that an expression can set for the text that follows. -/
inductive Flag where
  /-- Letters match in either case. -/
  | ignoreCase
  /-- `^` and `$` match at the ends of lines. -/
  | multiLine
  /-- The dot matches the end of a line too. -/
  | dotAll
  /-- Repetitions are greedy if they end with a question mark, instead of the others. -/
  | swapGreed
  /-- Classes hold the characters of Unicode instead of those of ASCII. -/
  | unicode
  /-- Lines may end with a carriage return. -/
  | returnLines
  /-- Blanks and comments between the parts of an expression are left out. -/
  | spaced
deriving DecidableEq

/-- Flags being set or cleared, in the order of the text. -/
abbrev FlagChanges := List (Flag × Bool)

/-- A character that stands for itself. -/
structure Literal where
  char : Char
  /-- Whether it is written as a byte, by two hexadecimal digits. -/
  byte : Bool
  place : Extent
deriving DecidableEq

/-- The classes that a backslash and one letter denote. -/
inductive ShortClass where
  | digit
  | space
  | word
deriving DecidableEq

/-- A name of a Unicode class. -/
inductive ClassQuery where
  /-- A property, a category or a script. -/
  | name (text : List Char)
  | value (property text : List Char)
deriving DecidableEq

/-- The ways to combine two classes inside brackets. -/
inductive ClassOperation where
  /-- The characters in both. -/
  | intersection
  /-- The characters in the first one only. -/
  | difference
  /-- The characters in exactly one. -/
  | symmetricDifference
deriving DecidableEq

inductive ClassTree where
  | literal (l : Literal)
  /-- The characters between two, both included. -/
  | range (first last : Literal)
  /-- A class with a letter of its own. -/
  | short (kind : ShortClass) (negated : Bool) (place : Extent)
  /-- A class of ASCII with a name between colons; the set is given by its intervals. -/
  | ascii (spans : String) (negated : Bool) (place : Extent)
  /-- A class of Unicode. -/
  | named (query : ClassQuery) (negated : Bool) (place : Extent)
  | bracketed (negated : Bool) (body : ClassTree) (place : Extent)
  /-- The members of any of the classes. -/
  | union (parts : List ClassTree) (place : Extent)
  /-- Two classes combined. -/
  | combined (operation : ClassOperation) (first second : ClassTree) (place : Extent)

/-- An assertion as it is written; what it says depends on the flags. -/
inductive WrittenAssertion where
  | caret
  | dollar
  | textStart
  | textEnd
  | wordBoundary
  | noWordBoundary
  | wordStart
  | wordEnd
  | noWordBefore
  | noWordAfter
deriving DecidableEq

/-- A regular expression as it is written. -/
inductive Tree where
  | empty
  | literal (l : Literal)
  | dot (place : Extent)
  | assertion (a : WrittenAssertion) (place : Extent)
  | charClass (c : ClassTree)
  /-- Flags for the rest of the group. -/
  | flags (changes : FlagChanges)
  | repetition (min : Nat) (max : Option Nat) (greedy : Bool) (body : Tree) (place : Extent)
  /-- A group: its number if it is recorded, and flags that are set inside. -/
  | group (index : Option Nat) (changes : FlagChanges) (body : Tree) (place : Extent)
  | concat (parts : List Tree) (place : Extent)
  | alternation (parts : List Tree) (place : Extent)

def ClassTree.place : ClassTree → Extent
  | .literal l => l.place
  | .range first last => ⟨first.place.start, last.place.stop⟩
  | .short _ _ place | .ascii _ _ place | .named _ _ place | .bracketed _ _ place
  | .union _ place | .combined _ _ _ place => place

/-- Where an expression begins; what has no text of its own and cannot be repeated counts as the
beginning of the text. -/
def Tree.start : Tree → Nat
  | .empty | .flags _ => 0
  | .literal l => l.place.start
  | .charClass c => c.place.start
  | .dot place | .assertion _ place | .repetition _ _ _ _ place | .group _ _ _ place
  | .concat _ place | .alternation _ place => place.start

mutual

/-- The first part of a class that is nested more deeply than `room` allows. -/
def ClassTree.tooDeep? (room : Nat) : ClassTree → Option Extent
  | .bracketed _ body place => if room = 0 then some place else body.tooDeep? (room - 1)
  | .union [] _ => none
  | .union (part :: parts) place =>
    if room = 0 then some place
    else part.tooDeep? (room - 1) <|> ClassTree.anyTooDeep? (room - 1) parts
  | .combined _ first second place =>
    if room = 0 then some place
    else first.tooDeep? (room - 1) <|> second.tooDeep? (room - 1)
  | .literal _ | .range .. | .short .. | .ascii .. | .named .. => none

/-- The first part of several classes that is nested more deeply than `room` allows. -/
def ClassTree.anyTooDeep? (room : Nat) : List ClassTree → Option Extent
  | [] => none
  | c :: cs => c.tooDeep? room <|> ClassTree.anyTooDeep? room cs

end

mutual

/-- The first part of an expression that is nested more deeply than `room` allows. -/
def Tree.tooDeep? (room : Nat) : Tree → Option Extent
  | .charClass c => c.tooDeep? room
  | .repetition _ _ _ body place | .group _ _ body place =>
    if room = 0 then some place else body.tooDeep? (room - 1)
  | .concat parts place | .alternation parts place =>
    if room = 0 then some place else Tree.anyTooDeep? (room - 1) parts
  | .empty | .literal _ | .dot _ | .assertion .. | .flags _ => none

/-- The first part of several expressions that is nested more deeply than `room` allows. -/
def Tree.anyTooDeep? (room : Nat) : List Tree → Option Extent
  | [] => none
  | t :: ts => t.tooDeep? room <|> Tree.anyTooDeep? room ts

end

/-- Parts one after the other; a part alone is not wrapped. -/
def Tree.ofParts (place : Extent) : List Tree → Tree
  | [] => .empty
  | [t] => t
  | ts => .concat ts place

/-- A choice between parts; a part alone is not wrapped. -/
def Tree.ofBranches (place : Extent) : List Tree → Tree
  | [t] => t
  | ts => .alternation ts place

/-- The members of any of the classes, which begin at a certain place if there are none; a class
alone is not wrapped. -/
def ClassTree.ofParts (start : Nat) : List ClassTree → ClassTree
  | [] => .union [] ⟨start, start⟩
  | [c] => c
  | c :: cs => .union (c :: cs) ⟨c.place.start, (cs.getLastD c).place.stop⟩

end Regex

end Clausal
