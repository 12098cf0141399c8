import Clausal.Rule.Basic

/-!
# Rules for lengths

The length of a text is the number of its characters, and that of an array the number of its
elements; nothing else has a length, and what has none breaks every rule for lengths.
-/

namespace Clausal

/-- Which way the number of an "up to" clause bounds a length. -/
inductive UpToBound where
  | atLeast
  | atMost
deriving DecidableEq

/-- A text that is not the spelling of a bound. -/
structure UnknownBound where
  text : String
deriving DecidableEq

def UnknownBound.message (e : UnknownBound) : String :=
  "unknown bound \x60" ++ e.text ++ "\x60, expected: at-least, at-most"

namespace UpToBound

def spelling : UpToBound → String
  | atLeast => "at-least"
  | atMost => "at-most"

def ofSpelling (text : String) : Except UnknownBound UpToBound :=
  if text = atLeast.spelling then .ok atLeast
  else if text = atMost.spelling then .ok atMost
  else .error ⟨text⟩

/-- Whether a length keeps to a bound. -/
def admits : UpToBound → Nat → Nat → Bool
  | atLeast, n, length => n ≤ length
  | atMost, n, length => length ≤ n

end UpToBound

def Value.length? : Value → Option Nat
  | .string s => some s.length
  | .array items => some items.length
  | _ => none

namespace Builtin

/-- A length between two bounds, both included. -/
def lengthRange : PartialRule where
  name := "length-range"
  code := "EN001"
  description := "with N to M characters"
  pattern := Grammar.lengthRange
  evaluate v c :=
    match c.kind, v.length? with
    | .bound (some low) (some high), some n => low ≤ n && n ≤ high
    | _, _ => false

/-- A least length. -/
def lengthAtLeast : PartialRule where
  name := "length-at-least"
  code := "EN002"
  description := "with N or more characters"
  pattern := Grammar.lengthAtLeast
  evaluate v c :=
    match c.kind, v.length? with
    | .bound (some low) _, some n => low ≤ n
    | _, _ => false

/-- A length bounded by the number after "up to". -/
def lengthUpTo (bound : UpToBound) : PartialRule where
  name := "length-up-to"
  code := "EN003"
  description :=
    match bound with
    | .atLeast => "with up to N characters (length >= N)"
    | .atMost => "with up to N characters (length <= N)"
  pattern := Grammar.lengthUpTo
  evaluate v c :=
    match c.kind, v.length? with
    | .bound _ (some high), some n => bound.admits high n
    | _, _ => false

end Builtin

end Clausal
