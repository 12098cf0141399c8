import Clausal.Primitive
import Clausal.Rule.Basic

/-!
# The phrases for types

Six kinds of values have a phrase of their own, and one that lets them be missing; two more phrases
hold for any value at all, and for any value that was supplied.
-/

namespace Clausal

namespace Builtin

/-- The kinds that have phrases, with their articles. -/
def kinds : List (String × Primitive) :=
  [("a", .string), ("a", .number), ("a", .boolean), ("an", .array), ("an", .object),
   ("a", .function)]

def requiredPhrase (article : String) (kind : Primitive) : WholeRule where
  phrase := article ++ " " ++ kind.noun
  test := kind.test

/-- The phrase for values of a kind that may be missing. -/
def optionalPhrase (kind : Primitive) : WholeRule where
  phrase := "an optional " ++ kind.noun
  test v := Primitive.void.test v || kind.test v

/-- The phrase that holds for everything. -/
def anyValue : WholeRule where
  phrase := "any value"
  test _ := true

/-- The phrase that holds for everything that was supplied. -/
def aValue : WholeRule where
  phrase := "a value"
  test v := !Primitive.void.test v

def phrases : List WholeRule :=
  kinds.flatMap (fun (article, kind) => [optionalPhrase kind, requiredPhrase article kind]) ++
    [anyValue, aValue]

end Builtin

end Clausal
