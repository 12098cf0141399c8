import Clausal.Validator

/-!
# The table of rules
-/

namespace Clausal

/-- A text with spaces after it up to a width. -/
def padRight (width : Nat) (text : String) : String :=
  text ++ String.ofList (List.replicate (width - text.length) ' ')

/-- A line of the table. -/
def ruleLine (code name clause : String) : String :=
  padRight 10 code ++ " " ++ padRight 25 name ++ " " ++ clause

/-- The table of the rules of a validator: the phrases, and the rules for clauses in order of
priority. -/
def Validator.ruleTable (v : Validator) : String :=
  let phrases := v.whole.rules.map fun r => "  " ++ r.phrase
  let clauses := v.partials.rules.map fun r =>
    ruleLine (if r.code = "" then "-" else r.code) r.name r.description
  String.join <| List.map (· ++ "\n") <|
    ["Type phrases:", ""] ++ phrases ++
    ["", "Clause rules (tried in order):", "", ruleLine "Code" "Name" "Clause",
      String.ofList (List.replicate 80 '-')] ++ clauses ++
    ["", "Class checks take the form \x60a \x7b\x7d\x60 or \x60an \x7b\x7d\x60 " ++
        "with a class argument.",
      "", "Disable or configure rules in enforce.toml, e.g.:", "  [rules.length-up-to]",
      "  bound = \"at-most\""]

end Clausal
