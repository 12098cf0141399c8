import Clausal.Number.Digit

/-!
# Reading a text

A `TextReader` takes what it reads off the text that is left, or fails.  The readers here are those
that every format is made of.
-/

namespace Clausal

/-- A step of reading: takes what it reads off the text that is left. -/
abbrev TextReader := StateT (List Char) Option

namespace TextReader

/-- Reads a certain text. -/
def expect (text : List Char) : TextReader Unit := do
  let rest ← get
  if text.isPrefixOf rest then set (rest.drop text.length) else failure

/-- Reads a certain text if it comes next, and says whether it did. -/
def accept (text : List Char) : TextReader Bool := do
  let rest ← get
  if text.isPrefixOf rest then
    set (rest.drop text.length)
    return true
  else return false

/-- Reads the longest run of certain characters. -/
def takeRun (p : Char → Bool) : TextReader (List Char) := do
  let rest ← get
  set (rest.dropWhile p)
  return rest.takeWhile p

/-- Reads a fixed number of hexadecimal digits after others, whose value is given. -/
def hexDigits : Nat → Nat → TextReader Nat
  | 0, value => return value
  | count + 1, value => do
    match ← get with
    | c :: rest =>
      match Digit.hexValue? c with
      | some d =>
        set rest
        hexDigits count (16 * value + d)
      | none => failure
    | [] => failure

end TextReader

end Clausal
