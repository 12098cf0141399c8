import Clausal.Number.Digit
import Clausal.Regex.ClassName
import Clausal.Text.Property

/-!
# Reading regular expressions

`Tree.ofText` reads a text as a regular expression.  Each reading function takes the text that is
left and returns what it read together with the text after it.  Loops are bounded by a number that
is greater than the length of the text, as every round reads at least one character.
-/

namespace Clausal

namespace Regex

/-- What a reader has yet to read and what it has to remember. -/
structure Reading where
  rest : List Char
  position : Nat := 0
  /-- Whether blanks and comments are left out. -/
  spaced : Bool := false
  /-- How many groups have been numbered. -/
  groups : Nat := 0
  /-- The names of groups, and where they are. -/
  names : List (List Char × Extent) := []

/-- A step of reading. -/
abbrev Reader := StateT Reading (Except PlacedFault)

namespace Reader

def stop {α : Type} (fault : Fault) (place : Extent) : Reader α := throw { fault, place }

def position : Reader Nat := return (← get).position

/-- The part from a position up to where reading has come. -/
def since (start : Nat) : Reader Extent := return ⟨start, ← position⟩

/-- The empty part where reading has come. -/
def here : Reader Extent := do since (← position)

def nextPlace : Reader Extent := do return ⟨← position, (← position) + 1⟩

def remaining : Reader (List Char) := return (← get).rest

def peek? : Reader (Option Char) := return (← remaining).head?

def skipMany (count : Nat) : Reader Unit :=
  modify fun r => { r with rest := r.rest.drop count, position := r.position + count }

def skip : Reader Unit := do
  if (← peek?).isSome then skipMany 1

/-- How many characters at the beginning of a text are blanks or belong to comments; `inComment`
says that the text begins inside a comment. -/
def ignoredLength (inComment : Bool) : List Char → Nat
  | [] => 0
  | c :: rest =>
    if inComment then ignoredLength (c != '\n') rest + 1
    else if isBlank c then ignoredLength false rest + 1
    else if c = '#' then ignoredLength true rest + 1
    else 0

/-- Passes over blanks and comments, where they are left out. -/
def skipIgnored : Reader Unit := do
  if (← get).spaced then skipMany (ignoredLength false (← remaining))

/-- Passes over one character and what is left out after it. -/
def skipOn : Reader Unit := do
  skip
  skipIgnored

/-- The character that follows the next one and what is left out after it. -/
def peekOn? : Reader (Option Char) := do
  let rest := (← remaining).tail
  return if (← get).spaced then (rest.drop (ignoredLength false rest)).head? else rest.head?

/-- Passes over a text if it comes next, and says whether it did. -/
def skipIf (text : List Char) : Reader Bool := do
  if text.isPrefixOf (← remaining) then
    skipMany text.length
    return true
  else return false

/-- Skips the first of some texts that comes next, and says whether one did. -/
def skipOne : List (List Char) → Reader Bool
  | [] => return false
  | text :: others => do
    if ← skipIf text then return true else skipOne others

/-- A bound for the number of rounds of a loop that reads something in every round. -/
def rounds : Reader Nat := return (← remaining).length + 1

/-- The character of a number; `place` is where the number is. -/
def character (n : Nat) (place : Extent) : Reader Char :=
  if n.isValidChar then return Char.ofNat n else stop .hexInvalid place

/-- Reads a hexadecimal digit, but does not pass over it. -/
def hexDigit : Reader Nat := do
  match ← peek? with
  | none => stop .escapeUnfinished (← here)
  | some c =>
    match Digit.hexValue? c with
    | some d => return d
    | none => stop .hexInvalidDigit (← nextPlace)

/-- Reads a fixed number of hexadecimal digits. -/
def hexDigits : Nat → Nat → Reader Nat
  | 0, value => return value
  | count + 1, value => do
    let d ← hexDigit
    skipOn
    hexDigits count (16 * value + d)

/-- Reads hexadecimal digits up to a closing brace; `digits` holds the values of those before, the
latest one first, and `opened` is where the opening brace is. -/
def hexDigitsInBraces (opened : Nat) : Nat → List Nat → Reader (List Nat)
  | 0, _ => do stop .escapeUnfinished (← since opened)
  | bound + 1, digits => do
    match ← peek? with
    | none => stop .escapeUnfinished (← since opened)
    | some '}' => return digits
    | some _ =>
      let d ← hexDigit
      skipOn
      hexDigitsInBraces opened bound (d :: digits)

/-- Reads the number of a character after its letter; `digits` is how many there are without braces
and `start` is where the backslash is. -/
def hexLiteral (start digits : Nat) : Reader Literal := do
  skipOn
  let opened ← position
  match ← peek? with
  | none => stop .escapeUnfinished (← here)
  | some '{' =>
    skipOn
    let values ← hexDigitsInBraces opened (← rounds) []
    let closed ← position
    skipOn
    if values.isEmpty then stop .hexEmpty (← since opened)
    let value := values.foldr (fun d n => 16 * n + d) 0
    return ⟨← character value ⟨opened + 1, closed⟩, false, ← since start⟩
  | some _ =>
    let value ← hexDigits digits 0
    return ⟨← character value (← since opened), digits == 2, ← since start⟩

/-- Reads the characters up to a closing brace, but not the brace; the latest one comes first in
`name`. -/
def nameInBraces : Nat → List Char → Reader (List Char)
  | 0, _ => do stop .escapeUnfinished (← here)
  | bound + 1, name => do
    match ← peek? with
    | none => stop .escapeUnfinished (← here)
    | some '}' => return name.reverse
    | some c =>
      skipOn
      nameInBraces bound (c :: name)

/-- Splits a text around the first place where another one occurs. -/
def splitAround? (mark before : List Char) : List Char → Option (List Char × List Char)
  | [] => none
  | c :: rest =>
    if mark.isPrefixOf (c :: rest) then some (before.reverse, (c :: rest).drop mark.length)
    else splitAround? mark (c :: before) rest

/-- A name of a Unicode class that may hold a value of a property.  An exclamation mark before the
equals sign is read, but means nothing. -/
def query (name : List Char) : ClassQuery :=
  match [['!', '='], [':'], ['=']].findSome? fun mark => splitAround? mark [] name with
  | some (property, value) => .value property value
  | none => .name name

/-- Reads a Unicode class from its letter on; `start` is where the backslash is. -/
def namedClass (start : Nat) (negated : Bool) : Reader ClassTree := do
  skipOn
  match ← peek? with
  | none => stop .escapeUnfinished (← here)
  | some '{' =>
    skipOn
    let name ← nameInBraces (← rounds) []
    skip
    return .named (query name) negated (← since start)
  | some '\\' => stop .unicodeClassInvalid (← nextPlace)
  | some c =>
    skipOn
    return .named (.name [c]) negated (← since start)

/-- The characters that a backslash makes stand for themselves although they have a meaning. -/
def metaCharacters : List Char :=
  ['\\', '.', '+', '*', '?', '(', ')', '|', '[', ']', '{', '}', '^', '$', '#', '&', '-', '~']

/-- Whether a backslash may come before a character that stands for itself. -/
def isEscapable (c : Char) : Bool :=
  metaCharacters.contains c ||
    (c.toNat < 0x80 && !c.isAlphanum && c != '<' && c != '>')

/-- Whether a character can stand in the name of a special boundary. -/
def isBoundaryLetter (c : Char) : Bool := c.isAlpha || c = '-'

/-- Reads the letters of a special boundary, the latest one first in `name`. -/
def boundaryLetters : Nat → List Char → Reader (List Char)
  | 0, name => return name.reverse
  | bound + 1, name => do
    match ← peek? with
    | some c =>
      if isBoundaryLetter c then
        skipOn
        boundaryLetters bound (c :: name)
      else return name.reverse
    | none => return name.reverse

def specialBoundary? (name : List Char) : Option WrittenAssertion :=
  if name = "start".toList then some .wordStart
  else if name = "end".toList then some .wordEnd
  else if name = "start-half".toList then some .noWordBefore
  else if name = "end-half".toList then some .noWordAfter
  else none

/-- Reads what follows the letter of a boundary: a name in braces makes it special.  Braces that do
not begin with a letter are left to be read as a repetition.  `start` is where the backslash is. -/
def boundary (start : Nat) : Reader WrittenAssertion := do
  if (← peek?) != some '{' then return .wordBoundary
  let saved ← get
  let opened ← position
  skipOn
  let inner ← position
  match ← peek? with
  | none => stop .boundaryUnfinished (← since start)
  | some c =>
    if !isBoundaryLetter c then
      set saved
      return .wordBoundary
    let name ← boundaryLetters (← rounds) []
    if (← peek?) != some '}' then stop .boundaryUnclosed (← since opened)
    let closed ← position
    skip
    match specialBoundary? name with
    | some a => return a
    | none => stop .boundaryUnknown ⟨inner, closed⟩

/-- What a single piece of an expression is: a character, an assertion, a class or a dot. -/
inductive Piece where
  | literal (l : Literal)
  | assertion (a : WrittenAssertion) (place : Extent)
  | charClass (c : ClassTree)
  | dot (place : Extent)

def Piece.place : Piece → Extent
  | .literal l => l.place
  | .assertion _ place => place
  | .charClass c => c.place
  | .dot place => place

/-- The pieces of one letter after a backslash that need no further reading. -/
def letterPiece? (c : Char) (place : Extent) : Option Piece :=
  match c with
  | 'd' => some (.charClass (.short .digit false place))
  | 'D' => some (.charClass (.short .digit true place))
  | 's' => some (.charClass (.short .space false place))
  | 'S' => some (.charClass (.short .space true place))
  | 'w' => some (.charClass (.short .word false place))
  | 'W' => some (.charClass (.short .word true place))
  | 'a' => some (.literal ⟨'\x07', false, place⟩)
  | 'f' => some (.literal ⟨'\x0c', false, place⟩)
  | 't' => some (.literal ⟨'\t', false, place⟩)
  | 'n' => some (.literal ⟨'\n', false, place⟩)
  | 'r' => some (.literal ⟨'\r', false, place⟩)
  | 'v' => some (.literal ⟨'\x0b', false, place⟩)
  | 'A' => some (.assertion .textStart place)
  | 'z' => some (.assertion .textEnd place)
  | 'B' => some (.assertion .noWordBoundary place)
  | '<' => some (.assertion .wordStart place)
  | '>' => some (.assertion .wordEnd place)
  | _ => none

/-- Reads a piece that begins with a backslash. -/
def escape : Reader Piece := do
  let start ← position
  skip
  match ← peek? with
  | none => stop .escapeUnfinished (← since start)
  | some c =>
    if c.isDigit then stop .backreference ⟨start, (← position) + 1⟩
    else if c = 'x' then return .literal (← hexLiteral start 2)
    else if c = 'u' then return .literal (← hexLiteral start 4)
    else if c = 'U' then return .literal (← hexLiteral start 8)
    else if c = 'p' || c = 'P' then return .charClass (← namedClass start (c = 'P'))
    else
      skip
      let place ← since start
      if isEscapable c then return .literal ⟨c, false, place⟩
      else if c = 'b' then
        let a ← boundary start
        return .assertion a (← since start)
      else
        match letterPiece? c place with
        | some piece => return piece
        | none => stop .escapeUnknown place

/-- Reads a character that stands for itself. -/
def verbatim (c : Char) : Reader Piece := do
  let place ← nextPlace
  skip
  return .literal ⟨c, false, place⟩

/-- Reads a piece outside brackets that begins with a certain character. -/
def piece (c : Char) : Reader Piece := do
  let place ← nextPlace
  match c with
  | '\\' => escape
  | '.' =>
    skip
    return .dot place
  | '^' =>
    skip
    return .assertion .caret place
  | '$' =>
    skip
    return .assertion .dollar place
  | c => verbatim c

def Piece.toTree : Piece → Tree
  | .literal l => .literal l
  | .assertion a place => .assertion a place
  | .charClass c => .charClass c
  | .dot place => .dot place

/-- Reads a piece inside brackets; `opened` is the beginning of the brackets. -/
def classPiece (opened : Extent) : Reader Piece := do
  match ← peek? with
  | none => stop .classUnclosed opened
  | some '\\' => escape
  | some c => verbatim c

def Piece.toClass : Piece → Reader ClassTree
  | .literal l => return .literal l
  | .charClass c => return c
  | p => stop .classEscapeInvalid p.place

def Piece.toEnd : Piece → Reader Literal
  | .literal l => return l
  | p => stop .classRangeLiteral p.place

/-- Reads a character, or two with a hyphen between them, or a class, inside brackets. -/
def classRange (opened : Extent) : Reader ClassTree := do
  let first ← classPiece opened
  skipIgnored
  match ← peek? with
  | none => stop .classUnclosed opened
  | some c =>
    let following ← peekOn?
    if c != '-' || following == some ']' || following == some '-' then first.toClass
    else
      skipOn
      let second ← classPiece opened
      let a ← first.toEnd
      let b ← second.toEnd
      if b.char < a.char then stop .classRangeInvalid ⟨a.place.start, b.place.stop⟩
      return .range a b

/-- Reads a class of ASCII with a name between colons, if there is one. -/
def asciiClass? : Reader (Option ClassTree) := do
  match ← remaining with
  | '[' :: ':' :: rest =>
    let (negated, named) := match rest with
      | '^' :: more => (true, more)
      | more => (false, more)
    let name := named.takeWhile (· != ':')
    match asciiClasses.lookup name, named.dropWhile (· != ':') with
    | some spans, ':' :: ']' :: _ =>
      let start ← position
      skipMany (name.length + (if negated then 5 else 4))
      return some (.ascii spans negated (← since start))
    | _, _ => return none
  | _ => return none

/-- Reads hyphens at the beginning of brackets, which stand for themselves; `start` is where the
bracket is. -/
def leadingHyphens (start : Nat) : Nat → List ClassTree → Reader (List ClassTree)
  | 0, _ => stop .classUnclosed ⟨start, start⟩
  | bound + 1, parts => do
    if (← peek?) = some '-' then
      let place ← nextPlace
      skipOn
      if (← peek?).isNone then stop .classUnclosed ⟨start, start⟩
      leadingHyphens start bound (.literal ⟨'-', false, place⟩ :: parts)
    else return parts

/-- A class that ends an operation between two, if one has begun.  `start` is where the parts begin
if there are none. -/
def closeOperation (open? : Option (ClassOperation × ClassTree)) (start : Nat)
    (parts : List ClassTree) : ClassTree :=
  let second := ClassTree.ofParts start parts.reverse
  match open? with
  | some (operation, first) =>
    .combined operation first second ⟨first.place.start, second.place.stop⟩
  | none => second

/-- The operation between classes that two characters denote. -/
def operation? : List Char → Option ClassOperation
  | '&' :: '&' :: _ => some .intersection
  | '-' :: '-' :: _ => some .difference
  | '~' :: '~' :: _ => some .symmetricDifference
  | _ => none

/-- What is known of a class between brackets whose inside is being read. -/
structure OpenClass where
  negated : Bool
  opened : Extent
  /-- An operation that waits for its second class. -/
  operation : Option (ClassOperation × ClassTree)
  start : Nat
  /-- The parts read since the operation, the latest one first. -/
  parts : List ClassTree

/-- Stops if there is no more text inside the brackets that begin at `start`. -/
def insideBrackets (start : Nat) : Reader Unit := do
  if (← peek?).isNone then stop .classUnclosed (← since start)

/-- Reads the beginning of a class between brackets: whether it is negated, and the characters that
stand for themselves only there. -/
def openBracket : Reader OpenClass := do
  let start ← position
  skipOn
  insideBrackets start
  let negated := (← peek?) = some '^'
  if negated then
    skipOn
    insideBrackets start
  let inner ← position
  let hyphens ← leadingHyphens start (← rounds) []
  if hyphens.isEmpty && (← peek?) = some ']' then
    let place ← nextPlace
    skipOn
    insideBrackets start
    return ⟨negated, ← since start, none, inner, [.literal ⟨']', false, place⟩]⟩
  else return ⟨negated, ← since start, none, inner, hyphens⟩

/-- Reads the inside of brackets up to the closing one and returns the class. -/
def brackets (bound : Nat) (c : OpenClass) : Reader ClassTree :=
  match bound with
  | 0 => stop .classUnclosed c.opened
  | bound + 1 => do
    skipIgnored
    let rest ← remaining
    match rest.head? with
    | none => stop .classUnclosed c.opened
    | some '[' =>
      match ← asciiClass? with
      | some tree => brackets bound { c with parts := tree :: c.parts }
      | none =>
        let tree ← brackets bound (← openBracket)
        brackets bound { c with parts := tree :: c.parts }
    | some ']' =>
      skip
      return .bracketed c.negated (closeOperation c.operation c.start c.parts)
        (← since c.opened.start)
    | some _ =>
      match operation? rest with
      | some operation =>
        skipMany 2
        let first := closeOperation c.operation c.start c.parts
        brackets bound
          { c with operation := some (operation, first), start := ← position, parts := [] }
      | none =>
        let tree ← classRange c.opened
        brackets bound { c with parts := tree :: c.parts }

def bracketedClass : Reader ClassTree := do
  let c ← openBracket
  brackets (← rounds) c

def skipBlanks : Reader Unit := do
  skipMany ((← remaining).takeWhile isBlank).length

/-- Reads decimal digits, with what is left out after each. -/
def decimalDigits : Nat → List Char → Reader (List Char)
  | 0, digits => return digits.reverse
  | bound + 1, digits => do
    match ← peek? with
    | some c =>
      if c.isDigit then
        skipOn
        decimalDigits bound (c :: digits)
      else return digits.reverse
    | none => return digits.reverse

/-- Reads a number of rounds, which has to be less than two to the power of thirty-two.  A fault of
the number is returned, as others can come before it. -/
def count : Reader (Except PlacedFault Nat) := do
  skipBlanks
  let start ← position
  let digits ← decimalDigits (← rounds) []
  let place ← since start
  skipBlanks
  skipIgnored
  let value := Digit.number digits
  if digits.isEmpty then return .error { fault := .repetitionCountEmpty, place }
  else if 0x100000000 ≤ value then return .error { fault := .decimalInvalid, place }
  else return .ok value

def isRepeatable : Tree → Bool
  | .empty | .flags _ => false
  | _ => true

/-- The expression that a repetition applies to, and those before it; the latest one comes first. -/
def repeatable (parts : List Tree) : Reader (Tree × List Tree) := do
  match parts with
  | t :: ts => if isRepeatable t then return (t, ts) else stop .repetitionMissing (← here)
  | [] => stop .repetitionMissing (← here)

/-- Reads the question mark that may end a repetition. -/
def lazyMark : Reader Bool := skipIf ['?']

/-- Reads a repetition of one character. -/
def repetition (parts : List Tree) (min : Nat) (max : Option Nat) : Reader (List Tree) := do
  let (t, ts) ← repeatable parts
  skip
  let greedy := !(← lazyMark)
  return .repetition min max greedy t (← since t.start) :: ts

/-- Stops if there is no more text inside the braces that begin at `start`. -/
def insideBraces (start : Nat) : Reader Unit := do
  if (← peek?).isNone then stop .repetitionUnclosed (← since start)

/-- Reads the numbers of a repetition between braces; `start` is where the brace is. -/
def countRange (start : Nat) : Reader (Nat × Option Nat) := do
  let least ← count
  insideBraces start
  if (← peek?) = some ',' then
    skipOn
    insideBraces start
    if (← peek?) = some '}' then return (← liftExcept least, none)
    else
      let min ← liftExcept least
      let max ← liftExcept (← count)
      return (min, some max)
  else
    let min ← liftExcept least
    return (min, some min)
where
  /-- Stops at a fault that has been put off. -/
  liftExcept {α : Type} : Except PlacedFault α → Reader α
    | .ok a => return a
    | .error f => throw f

def countedRepetition (parts : List Tree) : Reader (List Tree) := do
  let start ← position
  let (t, ts) ← repeatable parts
  skipOn
  insideBraces start
  let (min, max) ← countRange start
  if (← peek?) != some '}' then stop .repetitionUnclosed (← since start)
  skipOn
  let greedy := !(← lazyMark)
  if max.any (· < min) then stop .repetitionRangeInvalid (← since start)
  return .repetition min max greedy t (← since t.start) :: ts

def flag? (c : Char) : Option Flag :=
  match c with
  | 'i' => some .ignoreCase
  | 'm' => some .multiLine
  | 's' => some .dotAll
  | 'U' => some .swapGreed
  | 'u' => some .unicode
  | 'R' => some .returnLines
  | 'x' => some .spaced
  | _ => none

structure ReadFlags where
  /-- The flags with their places, the latest one first. -/
  changes : List ((Flag × Bool) × Extent)
  hyphen : Option Extent
  hyphenLast : Bool

/-- Adds a flag, or the hyphen before flags that are cleared; neither comes twice. -/
def ReadFlags.add (read : ReadFlags) (c : Char) (place : Extent) : Except PlacedFault ReadFlags :=
  if c = '-' then
    match read.hyphen with
    | some earlier => .error { fault := .flagNegationRepeated, place, earlier := some earlier }
    | none => .ok { read with hyphen := some place, hyphenLast := true }
  else
    match flag? c with
    | none => .error { fault := .flagUnknown, place }
    | some f =>
      match read.changes.find? (·.1.1 == f) with
      | some (_, earlier) => .error { fault := .flagDuplicate, place, earlier := some earlier }
      | none =>
        .ok { read with
          changes := ((f, read.hyphen.isNone), place) :: read.changes, hyphenLast := false }

/-- Reads flags up to a colon or a closing parenthesis.  There is text left at the beginning. -/
def flagChanges : Nat → ReadFlags → Reader FlagChanges
  | 0, _ => do stop .flagUnfinished (← here)
  | bound + 1, read => do
    match ← peek? with
    | none => stop .flagUnfinished (← here)
    | some c =>
      if c = ':' || c = ')' then
        match read.hyphen, read.hyphenLast with
        | some place, true => stop .flagNegationDangling place
        | _, _ => return (read.changes.map (·.1)).reverse
      else
        match read.add c (← nextPlace) with
        | .error f => throw f
        | .ok read =>
          skip
          flagChanges bound read

/-- The letters that names of groups can begin with. -/
def nameLetters : CharSet := (Property.members? "alphabetic").getD CharSet.empty

/-- The other characters that names of groups can contain. -/
def nameNumbers : CharSet := Category.anyOf [.nd, .nl, .no]

/-- Whether a character can stand in the name of a group. -/
def isNameCharacter (first : Bool) (c : Char) : Bool :=
  c = '_' || nameLetters.contains c ||
    (!first && (c = '.' || c = '[' || c = ']' || nameNumbers.contains c))

/-- Reads the characters of the name of a group, but not the closing angle; the latest one comes
first in `name`. -/
def nameCharacters : Nat → List Char → Reader (List Char)
  | 0, name => return name.reverse
  | bound + 1, name => do
    match ← peek? with
    | none => stop .groupNameUnfinished (← here)
    | some '>' => return name.reverse
    | some c =>
      if isNameCharacter name.isEmpty c then
        skip
        nameCharacters bound (c :: name)
      else stop .groupNameInvalid (← nextPlace)

/-- Reads the name of a group up to its closing angle. -/
def groupName : Reader Unit := do
  let start ← position
  let name ← nameCharacters (← rounds) []
  let place ← since start
  skip
  if name.isEmpty then stop .groupNameEmpty place
  match (← get).names.lookup name with
  | some earlier => throw { fault := .groupNameDuplicate, place, earlier := some earlier }
  | none => modify fun r => { r with names := (name, place) :: r.names }

def groupIndex : Reader Nat := do
  modify fun r => { r with groups := r.groups + 1 }
  return (← get).groups

/-- The beginning of a group, or flags that stand alone. -/
inductive Opening where
  /-- Flags for the text that follows. -/
  | flags (changes : FlagChanges)
  /-- A group: its number if it is recorded, and the flags inside. -/
  | group (index : Option Nat) (changes : FlagChanges)

def opening : Reader Opening := do
  let start ← position
  let parenthesis ← nextPlace
  skipOn
  if ← skipOne [['?', '='], ['?', '!'], ['?', '<', '='], ['?', '<', '!']] then
    stop .lookAround (← since start)
  let inner ← here
  if ← skipOne [['?', 'P', '<'], ['?', '<']] then
    let index ← groupIndex
    groupName
    return .group (some index) []
  else if ← skipIf ['?'] then
    if (← peek?).isNone then stop .groupUnclosed parenthesis
    let changes ← flagChanges (← rounds) ⟨[], none, false⟩
    let standsAlone := (← peek?) = some ')'
    skip
    if !standsAlone then return .group none changes
    else if changes.isEmpty then stop .repetitionMissing inner
    else return .flags changes
  else return .group (some (← groupIndex)) []

/-- Applies what flags say about blanks and comments. -/
def applySpaced (changes : FlagChanges) : Reader Unit :=
  match changes.lookup .spaced with
  | some on => modify fun r => { r with spaced := on }
  | none => return

/-- What is known of an expression that is being read. -/
structure OpenTree where
  /-- The branches of a choice that have been read, the latest one first. -/
  done : List Tree := []
  start : Nat
  /-- Where the branch begins that is being read. -/
  branch : Nat
  /-- The parts of that branch, the latest one first. -/
  parts : List Tree := []

/-- The branches once the one being read is complete, the latest one first. -/
def OpenTree.branches (t : OpenTree) (stop : Nat) : List Tree :=
  Tree.ofParts ⟨t.branch, stop⟩ t.parts.reverse :: t.done

/-- The expression once it is complete. -/
def OpenTree.close (t : OpenTree) (stop : Nat) : Tree :=
  Tree.ofBranches ⟨t.start, stop⟩ (t.branches stop).reverse

/-- Reads an expression up to a closing parenthesis or the end of the text. -/
def expression (bound : Nat) (t : OpenTree) : Reader Tree :=
  match bound with
  | 0 => return t.close t.start
  | bound + 1 => do
    skipIgnored
    let start ← position
    match ← peek? with
    | none | some ')' => return t.close start
    | some '|' =>
      skip
      expression bound { t with done := t.branches start, branch := start + 1, parts := [] }
    | some '(' =>
      match ← opening with
      | .flags changes =>
        applySpaced changes
        expression bound { t with parts := .flags changes :: t.parts }
      | .group index changes =>
        let outer := (← get).spaced
        applySpaced changes
        let inner ← position
        let body ← expression bound { start := inner, branch := inner }
        if (← peek?).isNone then stop .groupUnclosed ⟨start, start + 1⟩
        modify fun r => { r with spaced := outer }
        skip
        let group := Tree.group index changes body (← since start)
        expression bound { t with parts := group :: t.parts }
    | some '[' =>
      let tree ← bracketedClass
      expression bound { t with parts := .charClass tree :: t.parts }
    | some '?' => expression bound { t with parts := ← repetition t.parts 0 (some 1) }
    | some '*' => expression bound { t with parts := ← repetition t.parts 0 none }
    | some '+' => expression bound { t with parts := ← repetition t.parts 1 none }
    | some '{' => expression bound { t with parts := ← countedRepetition t.parts }
    | some c =>
      let p ← piece c
      expression bound { t with parts := p.toTree :: t.parts }

end Reader

/-- How deeply the parts of an expression may be nested. -/
def depthLimit : Nat := 250

/-- Reads a text as a regular expression. -/
def Tree.ofText (text : List Char) : Except PlacedFault Tree := do
  let (tree, rest) ← (Reader.expression (text.length + 1) { start := 0, branch := 0 }).run
    { rest := text }
  if !rest.rest.isEmpty then
    throw { fault := .groupUnopened, place := ⟨rest.position, rest.position + 1⟩ }
  match tree.tooDeep? depthLimit with
  | some place => throw { fault := .tooDeep depthLimit, place }
  | none => return tree

end Regex

end Clausal
