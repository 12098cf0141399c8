/-!
# Faults of written expressions

A text that is no regular expression has a `Fault` at an `Extent` of it.  `RegexError.message` shows
the text with that part marked below it, as faults are easier seen than described.  The lines of a
text of several lines are numbered, and what goes over several of them is only told.
-/

namespace Clausal

namespace Regex

/-- A part of a text: where it begins and where it ends, counted in characters. -/
structure Extent where
  /-- How many characters come before the part. -/
  start : Nat
  /-- How many characters come before its end. -/
  stop : Nat
deriving DecidableEq

/-- What is wrong with a written expression. -/
inductive Fault where
  /-- A backslash in a class is followed by what no class can hold. -/
  | classEscapeInvalid
  /-- The end of a range of characters comes before its beginning. -/
  | classRangeInvalid
  /-- An end of a range is not a character. -/
  | classRangeLiteral
  | classUnclosed
  /-- A number of rounds is too great. -/
  | decimalInvalid
  | hexEmpty
  /-- A number is not that of a character. -/
  | hexInvalid
  /-- A digit of the number of a character is none. -/
  | hexInvalidDigit
  /-- The text ends inside what a backslash begins. -/
  | escapeUnfinished
  /-- A backslash is followed by a letter that it gives no meaning. -/
  | escapeUnknown
  /-- A hyphen before flags has no flag after it. -/
  | flagNegationDangling
  | flagDuplicate
  | flagNegationRepeated
  /-- The text ends inside flags. -/
  | flagUnfinished
  | flagUnknown
  | groupNameDuplicate
  | groupNameEmpty
  /-- The name of a group has a character that cannot stand in names. -/
  | groupNameInvalid
  /-- The text ends inside the name of a group. -/
  | groupNameUnfinished
  | groupUnclosed
  | groupUnopened
  | tooDeep (limit : Nat)
  /-- The greatest number of rounds is less than the least one. -/
  | repetitionRangeInvalid
  /-- A number of rounds has no digits. -/
  | repetitionCountEmpty
  /-- A number of rounds has no closing brace. -/
  | repetitionUnclosed
  | repetitionMissing
  /-- The name of a special boundary has no closing brace. -/
  | boundaryUnclosed
  | boundaryUnknown
  /-- The text ends after the brace behind a boundary. -/
  | boundaryUnfinished
  /-- The name of a Unicode class is a backslash. -/
  | unicodeClassInvalid
  /-- A group is referred to by its number. -/
  | backreference
  /-- The expression looks ahead or behind. -/
  | lookAround
  /-- Unicode is needed where its flag is cleared. -/
  | unicodeNotAllowed
  /-- Bytes that are no characters would match. -/
  | notCharacters
  | propertyUnknown
  | propertyValueUnknown
deriving DecidableEq

def Fault.message : Fault → String
  | classEscapeInvalid => "invalid escape sequence found in character class"
  | classRangeInvalid => "invalid character class range, the start must be <= the end"
  | classRangeLiteral => "invalid range boundary, must be a literal"
  | classUnclosed => "unclosed character class"
  | decimalInvalid => "decimal literal invalid"
  | hexEmpty => "hexadecimal literal empty"
  | hexInvalid => "hexadecimal literal is not a Unicode scalar value"
  | hexInvalidDigit => "invalid hexadecimal digit"
  | escapeUnfinished => "incomplete escape sequence, reached end of pattern prematurely"
  | escapeUnknown => "unrecognized escape sequence"
  | flagNegationDangling => "dangling flag negation operator"
  | flagDuplicate => "duplicate flag"
  | flagNegationRepeated => "flag negation operator repeated"
  | flagUnfinished => "expected flag but got end of regex"
  | flagUnknown => "unrecognized flag"
  | groupNameDuplicate => "duplicate capture group name"
  | groupNameEmpty => "empty capture group name"
  | groupNameInvalid => "invalid capture group character"
  | groupNameUnfinished => "unclosed capture group name"
  | groupUnclosed => "unclosed group"
  | groupUnopened => "unopened group"
  | tooDeep limit =>
    "exceed the maximum number of nested parentheses/brackets (" ++ Nat.repr limit ++ ")"
  | repetitionRangeInvalid => "invalid repetition count range, the start must be <= the end"
  | repetitionCountEmpty => "repetition quantifier expects a valid decimal"
  | repetitionUnclosed => "unclosed counted repetition"
  | repetitionMissing => "repetition operator missing expression"
  | boundaryUnclosed =>
    "special word boundary assertion is either unclosed or contains an invalid character"
  | boundaryUnknown =>
    "unrecognized special word boundary assertion, valid choices are: start, end, start-half " ++
      "or end-half"
  | boundaryUnfinished =>
    "found either the beginning of a special word boundary or a bounded repetition on a \\b " ++
      "with an opening brace, but no closing brace"
  | unicodeClassInvalid => "invalid Unicode character class"
  | backreference => "backreferences are not supported"
  | lookAround => "look-around, including look-ahead and look-behind, is not supported"
  | unicodeNotAllowed => "Unicode not allowed here"
  | notCharacters => "pattern can match invalid UTF-8"
  | propertyUnknown => "Unicode property not found"
  | propertyValueUnknown => "Unicode property value not found"

/-- A fault, where it is, and where the part is that it is at odds with, if there is one before it.
-/
structure PlacedFault where
  fault : Fault
  place : Extent
  /-- The earlier part that it is at odds with. -/
  earlier : Option Extent := none
deriving DecidableEq

/-- A line of marks below parts of a text, which are given in order; every part has at least one
mark.  `column` is how far the line has been written. -/
def marks (column : Nat) : List Extent → List Char
  | [] => []
  | e :: rest =>
    let gap := e.start - column
    let width := max 1 (e.stop - e.start)
    List.replicate gap ' ' ++ List.replicate width '^' ++ marks (column + gap + width) rest

/-- Where the parts of a fault are, in order. -/
def PlacedFault.extents (f : PlacedFault) : List Extent :=
  match f.earlier with
  | none => [f.place]
  | some e => if e.start ≤ f.place.start then [e, f.place] else [f.place, e]

/-- A place in a text by its line and its column, which are counted from one. -/
structure Spot where
  line : Nat
  column : Nat

/-- The place after some characters. -/
def Spot.after (cs : List Char) : Spot :=
  cs.foldl (fun s c => if c = '\n' then ⟨s.line + 1, 1⟩ else ⟨s.line, s.column + 1⟩) ⟨1, 1⟩

/-- The lines of a text without what ends them.  The end of the text ends a line that is not
empty. -/
def textLines (text : List Char) : List (List Char) :=
  let parts := text.splitOn '\n'
  let ended := parts.dropLast.map fun l => if l.getLast? = some '\r' then l.dropLast else l
  ended ++ parts.getLast?.toList.filter (!·.isEmpty)

/-- A part of a text by its first place and the place after it. -/
abbrev Stretch := Spot × Spot

def Extent.stretch (text : List Char) (e : Extent) : Stretch :=
  (.after (text.take e.start), .after (text.take e.stop))

/-- The parts that lie in one line, by their columns in it counted from zero. -/
def columnsIn (line : Nat) (stretches : List Stretch) : List Extent :=
  (stretches.filter fun (a, b) => a.line = line && b.line = line).map fun (a, b) =>
    ⟨a.column - 1, b.column - 1⟩

/-- A number with blanks before it. -/
def padded (width n : Nat) : String :=
  String.ofList (List.replicate (width - (Nat.repr n).length) ' ') ++ Nat.repr n

/-- The lines from a number on, each with its marks below it. -/
def numberedLines (width : Nat) (stretches : List Stretch) : Nat → List (List Char) → String
  | _, [] => ""
  | number, line :: lines =>
    let columns := columnsIn number stretches
    let below := if columns.isEmpty then "" else
      String.ofList (List.replicate (width + 2) ' ' ++ marks 0 columns) ++ "\n"
    padded width number ++ ": " ++ String.ofList line ++ "\n" ++ below ++
      numberedLines width stretches (number + 1) lines

/-- What is told of the parts that go over several lines. -/
def longNotes (stretches : List Stretch) : String :=
  let notes := (stretches.filter fun (a, b) => a.line != b.line).map fun (a, b) =>
    "on line " ++ Nat.repr a.line ++ " (column " ++ Nat.repr a.column ++ ") through line " ++
      Nat.repr b.line ++ " (column " ++ Nat.repr (b.column - 1) ++ ")"
  if notes.isEmpty then "" else "\n".intercalate notes ++ "\n"

/-- A text of several lines with the parts of a fault.  A line feed at the end begins a line that is
counted, though it is not shown. -/
def shownLines (text : List Char) (stretches : List Stretch) : String :=
  let lines := textLines text
  let count := lines.length + (if text.getLast? = some '\n' then 1 else 0)
  let divider := String.ofList (List.replicate 79 '~') ++ "\n"
  divider ++ numberedLines (Nat.repr count).length stretches 1 lines ++ divider ++
    longNotes stretches

/-- A text of one line with the parts of a fault. -/
def shownLine (text : List Char) (extents : List Extent) : String :=
  "    " ++ String.ofList text ++ "\n    " ++ String.ofList (marks 0 extents) ++ "\n"

/-- The room that an automaton for an expression may take, in bytes. -/
def sizeLimit : Nat := 10 * 0x100000

end Regex

/-- Why a text is no regular expression. -/
inductive RegexError where
  /-- The text has a fault. -/
  | malformed (source : String) (fault : Regex.PlacedFault)
  | tooLarge
deriving DecidableEq

/-- The wording of an error: the text with its fault shown, and what is wrong. -/
def RegexError.message : RegexError → String
  | malformed source f =>
    let text := source.toList
    let shown := if text.contains '\n' then
        Regex.shownLines text (f.extents.map (Regex.Extent.stretch text))
      else Regex.shownLine text f.extents
    "regex parse error:\n" ++ shown ++ "error: " ++ f.fault.message
  | tooLarge =>
    "Compiled regex exceeds size limit of " ++ Nat.repr Regex.sizeLimit ++ " bytes."

end Clausal
