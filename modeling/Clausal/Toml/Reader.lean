import Clausal.Number.Decimal
import Clausal.Text.Reader
import Clausal.Toml.Document

/-!
# Reading TOML

`Toml.ofText?` reads a TOML 1.0 document and returns the entries of its root, or nothing if the text
is no document.  Keys with too many parts and values that are nested too deeply are refused.
-/

namespace Clausal

namespace Toml

namespace Reader

open TextReader

/-- The number of parts of a key, and of nested values, that is too great. -/
def nestingLimit : Nat := 80

def isSpace (c : Char) : Bool := c = ' ' || c = '\t'

def spaces : TextReader Unit := do
  let _ ← takeRun isSpace

def isCommentCharacter (c : Char) : Bool :=
  c = '\t' || (0x20 ≤ c.toNat && c.toNat != 0x7F)

/-- Passes over a comment if one comes next. -/
def comment : TextReader Unit := do
  if ← accept ['#'] then
    let _ ← takeRun isCommentCharacter

/-- Reads the end of a line if it comes next, and says whether it did. -/
def newline : TextReader Bool := do
  if ← accept ['\n'] then return true else accept ['\r', '\n']

def lineEnd : TextReader Unit := do
  let rest ← get
  if rest.isEmpty then return
  if ← newline then return else failure

/-- Reads what may follow on a line. -/
def lineRest : TextReader Unit := do
  spaces
  comment
  lineEnd

/-- Reads the number of a character. -/
def hexCharacter (digits : Nat) : TextReader Char := do
  let n ← hexDigits digits 0
  if n.isValidChar then return Char.ofNat n else failure

def escape : TextReader Char := do
  match ← get with
  | c :: rest =>
    set rest
    match c with
    | 'b' => return '\x08'
    | 't' => return '\t'
    | 'n' => return '\n'
    | 'f' => return '\x0c'
    | 'r' => return '\r'
    | '"' => return '"'
    | '\\' => return '\\'
    | 'u' => hexCharacter 4
    | 'U' => hexCharacter 8
    | _ => failure
  | [] => failure

/-- Whether a character stands for itself between double quotes. -/
def isBasicCharacter (c : Char) : Bool :=
  c = '\t' || (0x20 ≤ c.toNat && c.toNat != 0x7F && c != '"' && c != '\\')

/-- Whether a character stands for itself between single quotes. -/
def isLiteralCharacter (c : Char) : Bool :=
  c = '\t' || (0x20 ≤ c.toNat && c.toNat != 0x7F && c != '\'')

/-- Reads a text up to its closing double quote; `done` holds what has been read, the latest
character first. -/
def basicRest : Nat → List Char → TextReader (List Char)
  | 0, _ => failure
  | bound + 1, done => do
    match ← get with
    | [] => failure
    | c :: rest =>
      set rest
      if c = '"' then return done.reverse
      else if c = '\\' then basicRest bound ((← escape) :: done)
      else if isBasicCharacter c then basicRest bound (c :: done)
      else failure

def blankLines : Nat → TextReader Unit
  | 0 => return
  | bound + 1 => do
    spaces
    if ← newline then blankLines bound

/-- Reads a text of several lines up to three closing quotes; up to two more quotes before them
belong to the text. -/
def linesRest (quote : Char) (escapes : Bool) : Nat → List Char → TextReader (List Char)
  | 0, _ => failure
  | bound + 1, done => do
    let rest ← get
    match rest with
    | [] => failure
    | c :: after =>
      if c = quote then
        let quotes := rest.takeWhile (· == quote)
        if quotes.length < 3 then
          set (rest.drop quotes.length)
          linesRest quote escapes bound (quotes ++ done)
        else
          let inside := min (quotes.length - 3) 2
          set (rest.drop (inside + 3))
          return (List.replicate inside quote ++ done).reverse
      else if escapes && c = '\\' then
        set after
        match after.dropWhile isSpace with
        | '\n' :: _ | '\r' :: '\n' :: _ =>
          blankLines (after.length + 1)
          linesRest quote escapes bound done
        | _ => linesRest quote escapes bound ((← escape) :: done)
      else if ← newline then linesRest quote escapes bound ('\n' :: done)
      else if (if escapes then isBasicCharacter c else isLiteralCharacter c) then
        set after
        linesRest quote escapes bound (c :: done)
      else failure

/-- Reads a text of several lines after its opening quotes. -/
def lines (quote : Char) (escapes : Bool) : TextReader String := do
  let _ ← newline
  return String.ofList (← linesRest quote escapes ((← get).length + 1) [])

/-- Reads a text on one line between double quotes, after the first one. -/
def basic : TextReader String := do
  return String.ofList (← basicRest ((← get).length + 1) [])

/-- Reads a text on one line between single quotes, after the first one. -/
def literal : TextReader String := do
  let cs ← takeRun isLiteralCharacter
  expect ['\'']
  return String.ofList cs

def string : TextReader String := do
  if ← accept ['"', '"', '"'] then lines '"' true
  else if ← accept ['"'] then basic
  else if ← accept ['\'', '\'', '\''] then lines '\'' false
  else
    expect ['\'']
    literal

/-- Whether a character may stand in a key without quotes. -/
def isKeyCharacter (c : Char) : Bool := c.isAlphanum || c = '_' || c = '-'

def keyPart : TextReader String := do
  if ← accept ['"'] then basic
  else if ← accept ['\''] then literal
  else
    let cs ← takeRun isKeyCharacter
    if cs.isEmpty then failure else return String.ofList cs

/-- Reads the parts of a key with dots between them. -/
def keyParts : Nat → List String → TextReader (List String)
  | 0, _ => failure
  | bound + 1, parts => do
    spaces
    let part ← keyPart
    spaces
    if ← accept ['.'] then keyParts bound (part :: parts) else return (part :: parts).reverse

def key : TextReader (List String) := do
  let parts ← keyParts ((← get).length + 1) []
  if nestingLimit ≤ parts.length then failure else return parts

/-- Reads a fixed number of decimal digits. -/
def fixedDigits (count : Nat) : TextReader Nat := do
  let rest ← get
  let digits := rest.take count
  if digits.length = count && digits.all Char.isDigit then
    set (rest.drop count)
    return Digit.number digits
  else failure

/-- Reads a fixed number of decimal digits whose value lies between two bounds. -/
def boundedDigits (count low high : Nat) : TextReader Nat := do
  let n ← fixedDigits count
  if low ≤ n && n ≤ high then return n else failure

def daysInMonth (year month : Nat) : Nat :=
  if month = 2 then
    if year % 4 = 0 && (year % 100 != 0 || year % 400 = 0) then 29 else 28
  else if month = 4 || month = 6 || month = 9 || month = 11 then 30
  else 31

def date : TextReader Date := do
  let year ← fixedDigits 4
  expect ['-']
  let month ← boundedDigits 2 1 12
  expect ['-']
  let day ← boundedDigits 2 1 (daysInMonth year month)
  return ⟨year, month, day⟩

/-- Reads a fraction of a second if there is one.  Digits after the ninth do not count. -/
def fraction : TextReader Nat := do
  if ← accept ['.'] then
    let digits ← takeRun Char.isDigit
    if digits.isEmpty then failure
    else
      let counted := digits.take 9
      return Digit.number counted * Nat.pow 10 (9 - counted.length)
  else return 0

def time : TextReader Time := do
  let hour ← boundedDigits 2 0 23
  expect [':']
  let minute ← boundedDigits 2 0 59
  expect [':']
  let second ← boundedDigits 2 0 60
  return ⟨hour, minute, second, ← fraction⟩

/-- Reads an offset if there is one. -/
def offset? : TextReader (Option Offset) := do
  match ← get with
  | c :: rest =>
    if c = 'Z' || c = 'z' then
      set rest
      return some .universal
    else if c = '+' || c = '-' then
      set rest
      let hour ← boundedDigits 2 0 23
      expect [':']
      let minute ← boundedDigits 2 0 59
      let n : Int := hour * 60 + minute
      return some (.minutes (if c = '-' then -n else n))
    else return none
  | [] => return none

/-- Whether a time of day seems to come after a date: a delimiter, an hour and a colon. -/
def timeFollows (cs : List Char) : Bool :=
  match cs with
  | d :: a :: b :: ':' :: _ => (d = 'T' || d = 't' || d = ' ') && a.isDigit && b.isDigit
  | _ => false

def dateAndTime : TextReader Datetime := do
  let day ← date
  if timeFollows (← get) then
    set (← get).tail
    let t ← time
    return .date day (some (t, ← offset?))
  else return .date day none

/-- Reads digits of a number, with underscores between digits only; the underscores are left out. -/
def spacedDigits (isDigit : Char → Bool) : TextReader (List Char) := do
  let cs ← takeRun fun c => isDigit c || c = '_'
  let bad := cs.head? == some '_' || cs.getLast? == some '_' ||
    (cs.zip cs.tail).any fun (a, b) => a = '_' && b = '_'
  if cs.isEmpty || bad then failure else return cs.filter (· != '_')

def valueToBase (base : Nat) (cs : List Char) : Nat :=
  cs.foldl (fun n c => base * n + (Digit.hexValue? c).getD 0) 0

/-- An integer, if it fits into sixty-four bits. -/
def integer (n : Int) : TextReader Value :=
  if -0x8000000000000000 ≤ n && n < 0x8000000000000000 then return .integer n else failure

/-- Reads an integer to a base other than ten, after the letters for it. -/
def integerToBase (base : Nat) (isDigit : Char → Bool) : TextReader Value := do
  let cs ← spacedDigits isDigit
  integer (valueToBase base cs)

/-- Reads the digits before the point of a number: a zero alone, or digits that do not begin with
a zero. -/
def wholeDigits : TextReader (List Char) := do
  if ← accept ['0'] then return ['0'] else spacedDigits Char.isDigit

/-- Reads the power of ten of a number if there is one. -/
def exponentText : TextReader (List Char) := do
  match ← get with
  | c :: rest =>
    if c = 'e' || c = 'E' then
      set rest
      let sign ←
        if ← accept ['-'] then pure ['-']
        else do
          let _ ← accept ['+']
          pure []
      return 'e' :: sign ++ (← spacedDigits Char.isDigit)
    else return []
  | [] => return []

/-- The number that a numeral with a point or a power of ten denotes.  It must not be too great; how
far below zero it may be is not limited. -/
def floatOfText (negative : Bool) (numeral : List Char) : TextReader Value :=
  match Numeral.unsigned? negative numeral with
  | some n =>
    let x := Double.ofNumeral n
    if x.isInfinite && !negative then failure else return .float x
  | none => failure

/-- Reads a number to the base ten, with or without a point, after its sign. -/
def decimalNumber (negative : Bool) : TextReader Value := do
  let whole ← wholeDigits
  if ← accept ['.'] then
    let parts ← spacedDigits Char.isDigit
    floatOfText negative (whole ++ '.' :: parts ++ (← exponentText))
  else
    let power ← exponentText
    if power.isEmpty then
      let n : Int := Digit.number whole
      integer (if negative then -n else n)
    else floatOfText negative (whole ++ power)

/-- Reads a number that may have a sign, after its sign. -/
def signedNumber (negative : Bool) : TextReader Value := do
  if ← accept ['i', 'n', 'f'] then return .float (Double.infinity negative)
  else if ← accept ['n', 'a', 'n'] then return .float { Double.nan with negative := negative }
  else decimalNumber negative

/-- Reads a number.  Integers to a base other than ten have no sign. -/
def number : TextReader Value := do
  if ← accept ['-'] then signedNumber true
  else if ← accept ['+'] then signedNumber false
  else if ← accept ['0', 'x'] then integerToBase 16 fun c => (Digit.hexValue? c).isSome
  else if ← accept ['0', 'o'] then integerToBase 8 fun c => '0' ≤ c && c ≤ '7'
  else if ← accept ['0', 'b'] then integerToBase 2 fun c => c = '0' || c = '1'
  else signedNumber false

/-- Reads a number, a date or a time. -/
def numberOrDate : TextReader Value := do
  match ← get with
  | a :: b :: c :: d :: '-' :: _ =>
    if [a, b, c, d].all Char.isDigit then return .datetime (← dateAndTime) else number
  | a :: b :: ':' :: _ =>
    if a.isDigit && b.isDigit then return .datetime (.time (← time)) else number
  | _ => number

/-- Passes over blanks, comments and ends of lines. -/
def blanksAndComments : Nat → TextReader Unit
  | 0 => return
  | bound + 1 => do
    spaces
    comment
    if ← newline then blanksAndComments bound

mutual

/-- Reads a value; `depth` is how many arrays and tables it is inside of. -/
def value (bound depth : Nat) : TextReader Value :=
  match bound with
  | 0 => failure
  | bound + 1 => do
    match ← get with
    | [] => failure
    | c :: rest =>
      if c = '"' || c = '\'' then return .string (← string)
      else if c = '[' then
        set rest
        if nestingLimit ≤ depth + 1 then failure else items bound (depth + 1) []
      else if c = '\x7b' then
        set rest
        if nestingLimit ≤ depth + 1 then failure
        spaces
        if ← accept ['\x7d'] then return .table [] else fields bound (depth + 1) []
      else if c = 't' then
        expect "true".toList
        return .boolean true
      else if c = 'f' then
        expect "false".toList
        return .boolean false
      else numberOrDate

/-- Reads the items of an array up to its closing bracket; `done` holds the items before, the latest
one first. -/
def items (bound depth : Nat) (done : List Value) : TextReader Value :=
  match bound with
  | 0 => failure
  | bound + 1 => do
    blanksAndComments ((← get).length + 1)
    if ← accept [']'] then return .array done.reverse
    else
      let v ← value bound depth
      blanksAndComments ((← get).length + 1)
      if ← accept [','] then items bound depth (v :: done)
      else
        expect [']']
        return .array (v :: done).reverse

/-- Reads the fields of a table on one line, of which there is one at least, up to its closing
brace; `done` holds the fields before, the latest one first. -/
def fields (bound depth : Nat) (done : List (List String × Value)) : TextReader Value :=
  match bound with
  | 0 => failure
  | bound + 1 => do
    let k ← key
    expect ['=']
    spaces
    let v ← value bound depth
    spaces
    if ← accept [','] then fields bound depth ((k, v) :: done)
    else
      expect ['\x7d']
      match tableOfKeys ((k, v) :: done).reverse with
      | some t => return t
      | none => failure

end

/-- A step of a document that may be refused. -/
def lift (d : Option Document) : TextReader Document :=
  match d with
  | some d => return d
  | none => failure

def documentLines : Nat → Document → TextReader Document
  | 0, _ => failure
  | bound + 1, d => do
    spaces
    match ← get with
    | [] => return d
    | c :: _ =>
      if c = '#' then
        comment
        lineEnd
        documentLines bound d
      else if ← newline then documentLines bound d
      else if ← accept ['[', '['] then
        let k ← key
        expect [']', ']']
        lineRest
        documentLines bound (← lift (d.addHeader true k))
      else if ← accept ['['] then
        let k ← key
        expect [']']
        lineRest
        documentLines bound (← lift (d.addHeader false k))
      else
        let k ← key
        expect ['=']
        spaces
        let v ← value ((← get).length + 1) 0
        lineRest
        documentLines bound (← lift (d.addLine k v))

end Reader

/-- Reads a document: the entries of its root.  A byte order mark before the text is passed over. -/
def ofText? (text : String) : Option (List (String × Value)) :=
  let cs := match text.toList with
    | '\ufeff' :: rest => rest
    | cs => cs
  ((Reader.documentLines (cs.length + 2) Document.empty).run cs).map fun (d, _) => d.toEntries

end Toml

end Clausal
