import Clausal.Rule.Basic

/-!
# The rule for regular expressions
-/

namespace Clausal

namespace Builtin

/-- A text some part of which matches the expression of the clause. -/
def inlineMatch : PartialRule where
  name := "matches"
  code := "EN008"
  description := "[and ]matches /regex/flag"
  pattern := Grammar.inlinePattern
  evaluate v c :=
    match c.kind, v.text? with
    | .pattern regex _, some s => regex.isMatch s
    | _, _ => false

end Builtin

end Clausal
