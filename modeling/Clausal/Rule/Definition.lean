import Clausal.Clause.Basic

/-!
# Rules

A rule is a text of clauses with commas between them: a type clause and then modifiers.  It may
begin with `as `, which says nothing.
-/

namespace Clausal

/-- A rule that has been read: its clauses in order. -/
structure RuleDefinition where
  /-- The first clause, which names a type. -/
  typeClause : Clause
  /-- The other clauses. -/
  modifiers : List Clause

namespace RuleDefinition

/-- The token that stands for a class. -/
def placeholder : String := "\x7b\x7d"

/-- The words that may come before the token that stands for a class. -/
def articles : List String := ["a", "an"]

/-- A text without `as ` at its beginning. -/
def dropAs (cs : List Char) : List Char :=
  match cs with
  | 'a' :: 's' :: ' ' :: rest => rest
  | _ => cs

/-- The parts of a text between commas; there is always at least one. -/
def splitCommas : List Char → List Char × List (List Char)
  | [] => ([], [])
  | c :: rest =>
    let (first, others) := splitCommas rest
    if c = ',' then ([], first :: others) else (c :: first, others)

/-- The parts of a rule between commas, without blanks at the ends of the rule and without `as `. -/
def parts (rule : String) : String × List String :=
  let (first, others) := splitCommas (dropAs (trim rule).toList)
  (String.ofList first, others.map String.ofList)

/-- Reads a rule.  The first clause that cannot be read is the error. -/
def parse (rule : String) : Except ClauseError RuleDefinition := do
  let (first, others) := parts rule
  return ⟨Clause.ofType first, ← others.mapM Clause.parse⟩

def clauses (d : RuleDefinition) : List Clause :=
  d.typeClause :: d.modifiers

def declared (d : RuleDefinition) : List String :=
  d.clauses.map (·.text)

/-- Whether a word of a clause stands for a class. -/
def hasPlaceholder (d : RuleDefinition) : Bool :=
  d.clauses.any fun c => (words c.text).contains placeholder

/-- The article of a rule that is nothing but an article and the token that stands for a class. -/
def classArticle? (d : RuleDefinition) : Option String :=
  match d.modifiers, words d.typeClause.text with
  | [], [article, token] =>
    if token = placeholder && articles.contains article then some article else none
  | _, _ => none

end RuleDefinition

end Clausal
