import Clausal.Value.Basic

/-!
# Primitive kinds

The kinds of values that type clauses name.  Instances of classes are of none of these kinds.
-/

namespace Clausal

/-- A primitive kind of values. -/
inductive Primitive where
  | void
  | null
  | string
  | number
  | boolean
  | array
  | object
  | function
deriving DecidableEq

namespace Primitive

def all : List Primitive :=
  [void, null, string, number, boolean, array, object, function]

/-- Whether a value is of a kind. -/
def test : Primitive → Value → Bool
  | void, .void => true
  | null, .null => true
  | string, .string _ => true
  | number, .number _ => true
  | boolean, .boolean _ => true
  | array, .array _ => true
  | object, .object _ => true
  | function, .function _ => true
  | _, _ => false

def noun : Primitive → String
  | void => "void"
  | null => "null"
  | string => "string"
  | number => "number"
  | boolean => "boolean"
  | array => "array"
  | object => "object"
  | function => "function"

def ofNoun? (s : String) : Option Primitive :=
  all.find? (·.noun == s)

end Primitive

end Clausal
