import Clausal.Regex.Automaton
import Clausal.Regex.Meaning
import Clausal.Regex.Reader
import Clausal.Regex.Search

/-!
# Patterns

A `Pattern` is a regular expression that has been read from its text.  The field `compiles` says
that the expression is the one that the text denotes, so the source of a pattern is never out of
step with what it matches.
-/

namespace Clausal

/-- Reads a text as a regular expression. -/
def Regex.compile (ignoreCase : Bool) (source : List Char) : Except RegexError Regex := do
  let layout ← (do (← Regex.Tree.ofText source).toLayout ignoreCase).mapError
    (.malformed (String.ofList source))
  if !layout.fits then throw .tooLarge
  return layout.toRegex

/-- A regular expression with its text. -/
structure Pattern where
  source : String
  /-- Whether letters match in either case from the beginning. -/
  ignoreCase : Bool
  regex : Regex
  /-- The text denotes the expression. -/
  compiles : (Regex.compile ignoreCase source.toList).toOption = some regex

namespace Pattern

/-- Reads a pattern. -/
def compile (source : String) (ignoreCase : Bool) : Except RegexError Pattern :=
  match h : Regex.compile ignoreCase source.toList with
  | .ok r => .ok ⟨source, ignoreCase, r, by simp [h, Except.toOption]⟩
  | .error e => .error e

/-- Whether a pattern matches some part of a text. -/
def isMatch (p : Pattern) (text : String) : Bool :=
  p.regex.isMatch text.toList

/-- The texts of the groups of the leftmost match from the first group on, if there is a match. -/
def captures? (p : Pattern) (groups : Nat) (text : String) : Option (List (Option String)) :=
  (p.regex.find? text.toList).map fun marks =>
    (List.range groups).map fun i =>
      (Regex.captured text.toList marks (i + 1)).map String.ofList

end Pattern

end Clausal
