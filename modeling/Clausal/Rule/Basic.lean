import Clausal.Clause.Basic
import Clausal.Value.Text

/-!
# Rules for clauses

A `WholeRule` gives a meaning to one phrase, and a `PartialRule` to all clauses that match a
pattern.
-/

namespace Clausal

/-- A test of values under a phrase. -/
structure WholeRule where
  phrase : String
  test : Value → Bool

/-- A test of values for all clauses that match a pattern. -/
structure PartialRule where
  name : String
  /-- A short code of the rule; empty if it has none. -/
  code : String
  /-- What the clauses of the rule look like; empty if that is not described. -/
  description : String
  /-- What a clause has to match for the rule to apply. -/
  pattern : Pattern
  /-- Whether a value passes a clause. -/
  evaluate : Value → Clause → Bool

def WholeRule.describe (r : WholeRule) : String :=
  "WholeRule \x7b phrase: " ++ Quoted.encode r.phrase ++ ", .. \x7d"

namespace PartialRule

/-- A rule made from a pattern and a test, named after the pattern. -/
def ofPattern (pattern : Pattern) (evaluate : Value → Clause → Bool) : PartialRule :=
  { name := pattern.source, code := "", description := "", pattern, evaluate }

def appliesTo (r : PartialRule) (c : Clause) : Bool :=
  r.pattern.isMatch c.text

def describe (r : PartialRule) : String :=
  "PartialRule \x7b name: " ++ Quoted.encode r.name ++ ", pattern: " ++
    Quoted.encode r.pattern.source ++ ", .. \x7d"

end PartialRule

end Clausal
