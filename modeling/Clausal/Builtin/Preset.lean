import Clausal.Builtin.Comparison
import Clausal.Builtin.Length
import Clausal.Builtin.Matching
import Clausal.Config

/-!
# The built-in rules as configured

The built-in rules for clauses have a fixed order.  A configuration can leave rules out and choose
which way "up to" clauses bound a length; the rules that stay keep their order.
-/

namespace Clausal

/-- An option of a rule has a value that the rule does not know. -/
structure PresetError where
  rule : String
  key : String
  reason : String
deriving DecidableEq

def PresetError.message (e : PresetError) : String :=
  "[rules." ++ e.rule ++ "] " ++ e.key ++ ": " ++ e.reason

namespace Builtin

/-- The built-in rules in order of priority. -/
def rules (bound : UpToBound) : List PartialRule :=
  [lengthRange, lengthAtLeast, lengthUpTo bound] ++ ComparisonOp.all.map comparison ++ [inlineMatch]

/-- The bound that a configuration chooses for "up to" clauses, whether or not it enables their
rule.  An option that is no text counts as absent. -/
def configuredBound (c : Config) : Except PresetError UpToBound :=
  match c.rule? "length-up-to" with
  | none => .ok .atLeast
  | some settings =>
    (UpToBound.ofSpelling (settings.text "bound" UpToBound.atLeast.spelling)).mapError fun e =>
      ⟨"length-up-to", "bound", e.message⟩

/-- The built-in rules that a configuration enables. -/
def configuredRules (c : Config) : Except PresetError (List PartialRule) :=
  (configuredBound c).map fun bound => (rules bound).filter fun r => c.isEnabled r.name

end Builtin

end Clausal
