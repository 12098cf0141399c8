import Clausal.Json.Number
import Clausal.Text.Reader

/-!
# Reading JSON

`Json.ofText?` reads a JSON text with blanks around it.  Arrays and objects may be nested only so
deeply, and numbers may not be too great.
-/

namespace Clausal

namespace Json

namespace Reader

open TextReader

/-- How deeply arrays and objects are nested when there are too many of them. -/
def nestingLimit : Nat := 128

/-- Whether a character may stand between the parts of a text. -/
def isSpace (c : Char) : Bool := c = ' ' || c = '\n' || c = '\t' || c = '\r'

def spaces : TextReader Unit := modify (·.dropWhile isSpace)

/-- Reads decimal digits of which there has to be one. -/
def someDigits : TextReader (List Char) := do
  let cs ← takeRun Char.isDigit
  if cs.isEmpty then failure else return cs

/-- Reads a number.  Only a zero that stands alone begins its digits. -/
def numeral : TextReader Numeral := do
  let negative ← accept ['-']
  let whole ← someDigits
  if whole.head? == some '0' && whole.length != 1 then failure
  let fraction ← if ← accept ['.'] then do pure (some (← someDigits)) else pure none
  let written ← do if ← accept ['e'] then pure true else accept ['E']
  let exponent ←
    if written then do
      let minus ← accept ['-']
      if !minus then
        let _ ← accept ['+']
      pure (some (minus, ← someDigits))
    else pure none
  return ⟨negative, whole, fraction, exponent⟩

/-- Reads the number of a character after its letter; a character beyond four digits is written as
two numbers. -/
def numberedCharacter : TextReader Char := do
  let n ← hexDigits 4 0
  if n < 0xD800 || 0xDFFF < n then return Char.ofNat n
  else if 0xDC00 ≤ n then failure
  else
    expect ['\\', 'u']
    let m ← hexDigits 4 0
    if 0xDC00 ≤ m && m ≤ 0xDFFF then
      return Char.ofNat (0x10000 + (n - 0xD800) * 0x400 + (m - 0xDC00))
    else failure

def escape : TextReader Char := do
  match ← get with
  | c :: rest =>
    set rest
    match c with
    | '"' => return '"'
    | '\\' => return '\\'
    | '/' => return '/'
    | 'b' => return '\x08'
    | 'f' => return '\x0c'
    | 'n' => return '\n'
    | 'r' => return '\r'
    | 't' => return '\t'
    | 'u' => numberedCharacter
    | _ => failure
  | [] => failure

/-- Reads a text up to its closing quote; `done` holds what has been read, the latest character
first. -/
def stringRest : Nat → List Char → TextReader String
  | 0, _ => failure
  | bound + 1, done => do
    match ← get with
    | [] => failure
    | c :: rest =>
      set rest
      if c = '"' then return String.ofList done.reverse
      else if c = '\\' then stringRest bound ((← escape) :: done)
      else if c.toNat < 0x20 then failure
      else stringRest bound (c :: done)

/-- Reads a text after its opening quote. -/
def string : TextReader String := do
  stringRest ((← get).length + 1) []

mutual

/-- Reads a value; `room` is how deeply the value may still be nested. -/
def value (bound room : Nat) : TextReader Value :=
  match bound with
  | 0 => failure
  | bound + 1 => do
    spaces
    match ← get with
    | [] => failure
    | c :: rest =>
      if c = 'n' then
        expect "null".toList
        return .null
      else if c = 't' then
        expect "true".toList
        return .boolean true
      else if c = 'f' then
        expect "false".toList
        return .boolean false
      else if c = '"' then
        set rest
        return .string (← string)
      else if c = '[' then
        set rest
        if room ≤ 1 then failure
        else
          spaces
          if ← accept [']'] then return .array [] else items bound (room - 1) []
      else if c = '\x7b' then
        set rest
        if room ≤ 1 then failure
        else
          spaces
          if ← accept ['\x7d'] then return .object [] else fields bound (room - 1) []
      else
        match (← numeral).toNumber? with
        | some n => return .number n
        | none => failure

/-- Reads the items of an array up to its closing bracket; `done` holds the items before, the latest
one first. -/
def items (bound room : Nat) (done : List Value) : TextReader Value :=
  match bound with
  | 0 => failure
  | bound + 1 => do
    let v ← value bound room
    spaces
    if ← accept [','] then items bound room (v :: done)
    else
      expect [']']
      return .array (v :: done).reverse

/-- Reads the fields of an object up to its closing brace; `done` holds the fields before, the
latest one first. -/
def fields (bound room : Nat) (done : List (String × Value)) : TextReader Value :=
  match bound with
  | 0 => failure
  | bound + 1 => do
    spaces
    expect ['"']
    let k ← string
    spaces
    expect [':']
    let v ← value bound room
    spaces
    if ← accept [','] then fields bound room ((k, v) :: done)
    else
      expect ['\x7d']
      return .object ((k, v) :: done).reverse

end

end Reader

def ofText? (text : String) : Option Value :=
  match (Reader.value (text.length + 2) Reader.nestingLimit).run text.toList with
  | some (v, rest) => if rest.all Reader.isSpace then some v else none
  | none => none

end Json

end Clausal
