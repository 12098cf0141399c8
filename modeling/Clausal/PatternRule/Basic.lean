import Clausal.Rule.Basic

/-!
# Rules that are described by data

A `PatternRule` is a rule for clauses that needs no program of its own: a pattern for the clauses
and a check of values.  Rules of one collection have names that differ.

## Main definitions

- `RuleName` — a name of small letters, digits and hyphens
- `Check` — what a rule demands of a value
- `PatternRules` — rules in order, no two of which have the same name
-/

namespace Clausal

def isRuleNameCharacter (c : Char) : Bool := c.isLower || c.isDigit || c = '-'

/-- The name of a rule. -/
structure RuleName where
  text : String
  /-- There is at least one character. -/
  ne_empty : text ≠ ""
  /-- All characters can stand in names. -/
  all_characters : text.toList.all isRuleNameCharacter = true
deriving DecidableEq

/-- Why a rule, or a collection of rules, cannot be made. -/
inductive PatternRuleError where
  | emptyRuleName
  /-- The name has a character that cannot stand in names. -/
  | invalidRuleName (name : String)
  | emptyPattern
  /-- A pattern is no regular expression. -/
  | invalidPattern (source : String) (cause : RegexError)
  /-- An earlier rule has the same name. -/
  | duplicateName (name : RuleName)
deriving DecidableEq

def PatternRuleError.message : PatternRuleError → String
  | emptyRuleName => "rule name must not be empty"
  | invalidRuleName name => "invalid rule name \x60" ++ name ++ "\x60: must be [a-z0-9-]"
  | emptyPattern => "pattern must not be empty"
  | invalidPattern source cause => "invalid pattern \x60" ++ source ++ "\x60: " ++ cause.message
  | duplicateName name => "duplicate rule name \x60" ++ name.text ++ "\x60"

def RuleName.ofText (text : String) : Except PatternRuleError RuleName :=
  if ne_empty : text = "" then .error .emptyRuleName
  else if all_characters : text.toList.all isRuleNameCharacter then
    .ok ⟨text, ne_empty, all_characters⟩
  else .error (.invalidRuleName text)

/-- Reads a pattern, which needs at least one character. -/
def Pattern.ofSource (source : String) (ignoreCase : Bool) : Except PatternRuleError Pattern :=
  if source = "" then .error .emptyPattern
  else (Pattern.compile source ignoreCase).mapError (.invalidPattern source)

/-- What a rule demands of a value. -/
inductive Check where
  | equals (expected : Value)
  /-- The value equals one of several. -/
  | oneOf (candidates : List Value)
  /-- The value is a text some part of which matches. -/
  | matching (pattern : Pattern)

/-- Whether a value is what a rule demands. -/
def Check.holds (c : Check) (v : Value) : Bool :=
  match c with
  | equals expected => v == expected
  | oneOf candidates => candidates.any (· == v)
  | matching pattern => v.text?.any pattern.isMatch

/-- A rule that is described by data. -/
structure PatternRule where
  name : RuleName
  /-- What a clause has to match. -/
  pattern : Pattern
  /-- What the clauses look like, if that is described. -/
  description : Option String
  /-- What a value has to be. -/
  check : Check

/-- The rule as one among all rules for clauses; the pattern describes it if nothing else does. -/
def PatternRule.toPartialRule (r : PatternRule) : PartialRule where
  name := r.name.text
  code := ""
  description := r.description.getD r.pattern.source
  pattern := r.pattern
  evaluate v _ := r.check.holds v

/-- The names in a list that occur earlier in it, or among those seen before. -/
def repeatedNames (seen : List RuleName) : List RuleName → List RuleName
  | [] => []
  | n :: rest =>
    if n ∈ seen then n :: repeatedNames seen rest else repeatedNames (n :: seen) rest

/-- Rules in order, with names that differ. -/
structure PatternRules where
  rules : List PatternRule
  /-- No name occurs twice. -/
  distinct : repeatedNames [] (rules.map (·.name)) = []

namespace PatternRules

/-- The collection of rules in order.  There is an error for every rule whose name occurs before. -/
def ofList (rules : List PatternRule) : Except (List PatternRuleError) PatternRules :=
  if distinct : repeatedNames [] (rules.map (·.name)) = [] then .ok ⟨rules, distinct⟩
  else .error ((repeatedNames [] (rules.map (·.name))).map .duplicateName)

def isEmpty (rs : PatternRules) : Bool := rs.rules.isEmpty

/-- The rules among all rules for clauses. -/
def toPartialRules (rs : PatternRules) : List PartialRule := rs.rules.map (·.toPartialRule)

end PatternRules

end Clausal
