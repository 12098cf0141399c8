import Clausal.Pattern

/-!
# The grammar of modifier clauses

The eight patterns that modifier clauses with operands are recognised by.  Keywords match in either
letter case.  Each pattern comes with its expression, built from keywords and runs of digits, and
the proof that its text denotes that expression.
-/

namespace Clausal

namespace Grammar

/-- The characters of a keyword, each in either letter case. -/
def keyword (text : String) : List Regex :=
  text.toList.map fun c => .chars (CharSet.singleton c).closeUnderCase

/-- One decimal digit. -/
def digit : Regex := .chars (CharSet.ofText "30-39")

/-- One or more decimal digits, recorded as a group. -/
def digits (group : Nat) : Regex := Regex.group group (.repeated 1 none true digit)

/-- The parts of an expression that begins where the text begins. -/
def anchored (parts : List Regex) : Regex := Regex.seqs (.assert .textStart :: parts)

/-- A number of characters between two bounds. -/
def lengthRange : Pattern where
  source := "(?i)^with ([0-9]+) to ([0-9]+) characters$"
  ignoreCase := false
  regex := anchored <| keyword "with " ++ digits 1 :: keyword " to " ++ digits 2 ::
    keyword " characters" ++ [.assert .textEnd]
  compiles := by decide +kernel

/-- A least number of characters. -/
def lengthAtLeast : Pattern where
  source := "(?i)^with ([0-9]+) or more characters$"
  ignoreCase := false
  regex := anchored <| keyword "with " ++ digits 1 :: keyword " or more characters" ++
    [.assert .textEnd]
  compiles := by decide +kernel

/-- A number of characters after "up to". -/
def lengthUpTo : Pattern where
  source := "(?i)^with up to ([0-9]+) characters$"
  ignoreCase := false
  regex := anchored <| keyword "with up to " ++ digits 1 :: keyword " characters" ++
    [.assert .textEnd]
  compiles := by decide +kernel

/-- A lower limit that is excluded. -/
def greaterThan : Pattern where
  source := "(?i)^greater than [0-9]"
  ignoreCase := false
  regex := anchored <| keyword "greater than " ++ [digit]
  compiles := by decide +kernel

/-- A lower limit that is included. -/
def greaterOrEqual : Pattern where
  source := "(?i)^greater than or equal to [0-9]"
  ignoreCase := false
  regex := anchored <| keyword "greater than or equal to " ++ [digit]
  compiles := by decide +kernel

/-- An upper limit that is excluded. -/
def lessThan : Pattern where
  source := "(?i)^less than [0-9]"
  ignoreCase := false
  regex := anchored <| keyword "less than " ++ [digit]
  compiles := by decide +kernel

/-- An upper limit that is included. -/
def lessOrEqual : Pattern where
  source := "(?i)^less than or equal to [0-9]"
  ignoreCase := false
  regex := anchored <| keyword "less than or equal to " ++ [digit]
  compiles := by decide +kernel

/-- A regular expression between slashes, with a flag. -/
def inlinePattern : Pattern where
  source := "(?i)^(and )?matches /(.+)/([ig])$"
  ignoreCase := false
  regex := anchored <|
    .repeated 0 (some 1) true (Regex.group 1 (Regex.seqs (keyword "and "))) ::
    keyword "matches /" ++
    Regex.group 2 (.repeated 1 none true (.chars (CharSet.singleton '\n').complement)) ::
    keyword "/" ++
    [Regex.group 3 (.chars (CharSet.ofText "67 69").closeUnderCase), .assert .textEnd]
  compiles := by decide +kernel

end Grammar

end Clausal
