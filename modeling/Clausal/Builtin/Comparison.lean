import Clausal.Number.Decimal
import Clausal.Rule.Basic

/-!
# Rules for relations

A number is compared with an operand that denotes a finite number, and a text with the operand as it
stands, character by character.  Nothing else can be compared.
-/

namespace Clausal

/-- How a value compares with an operand, if it can be compared. -/
def Value.compareOperand? (v : Value) (operand : String) : Option Ordering :=
  match v with
  | .number x =>
    match Double.ofText? operand with
    | some y => if y.isFinite then x.compare? y else none
    | none => none
  | .string s => some (compare s operand)
  | _ => none

namespace Builtin

/-- The rule for the clauses with a certain relation. -/
def comparison (op : ComparisonOp) : PartialRule where
  name :=
    match op with
    | .greater => "greater-than"
    | .greaterOrEqual => "greater-or-equal"
    | .less => "less-than"
    | .lessOrEqual => "less-or-equal"
  code :=
    match op with
    | .greater => "EN004"
    | .greaterOrEqual => "EN005"
    | .less => "EN006"
    | .lessOrEqual => "EN007"
  description :=
    match op with
    | .greater => "greater than N"
    | .greaterOrEqual => "greater than or equal to N"
    | .less => "less than N"
    | .lessOrEqual => "less than or equal to N"
  pattern := op.pattern
  evaluate v c :=
    match c.kind with
    | .comparison _ operand => (v.compareOperand? operand).any op.holds
    | _ => false

end Builtin

end Clausal
