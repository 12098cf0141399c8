import Clausal.Failure
import Clausal.Registry
import Clausal.Rule.Definition

/-!
# Checking values against rules

A `Validator` holds the rules that give clauses their meaning.  `Validator.check` reads a rule and
checks a value: first the type clause, then each modifier in order until one does not pass.  The
report also lists which partial rules were evaluated, and on which clauses.
-/

namespace Clausal

/-- A parameter: its name and its value. -/
structure Param where
  name : String
  value : Value

/-- A class that a value has to be an instance of, with the name that messages give it. -/
structure ClassArg where
  /-- The name in messages. -/
  label : String
  ofClass : ClassName

/-- The evaluation of a partial rule on a clause. -/
structure Evaluation where
  /-- The position of the rule in its registry. -/
  rule : Nat
  clause : Clause

abbrev Outcome := Except Failure Unit

/-- The result of a check and the evaluations that took place, in order. -/
structure Report where
  outcome : Outcome
  ran : List Evaluation

/-- The rules that give clauses their meaning. -/
structure Validator where
  whole : WholeRegistry
  partials : PartialRegistry

/-- How modifiers come out. -/
inductive ModifiersResult where
  /-- All of them pass. -/
  | passed
  /-- One does not pass. -/
  | broken
  /-- One has no meaning. -/
  | unknown (clause : String)
deriving DecidableEq

/-- What modifiers that come out so say about a parameter of some name and the clauses of a rule. -/
def ModifiersResult.outcome (name : String) (declared : List String) : ModifiersResult → Outcome
  | passed => .ok ()
  | broken => .error (.validation name declared)
  | unknown clause => .error (.format name (.unknownModifier clause))

namespace Validator

/-- The validator with whole rules, inserted in order, and partial rules in order of priority. -/
def ofRules (case : PhraseCase) (whole : List WholeRule) (partials : List PartialRule) :
    Validator :=
  ⟨(WholeRegistry.empty case).insertAll whole, ⟨partials⟩⟩

/-- Adds a partial rule with the lowest priority. -/
def register (v : Validator) (rule : PartialRule) : Validator :=
  { v with partials := v.partials.register rule }

/-- Decides a modifier for a value: whether it passes, if it has a meaning, and the evaluation that
found out, if one did.  Phrases come before patterns. -/
def decideModifier (v : Validator) (value : Value) (c : Clause) :
    Option Bool × Option Evaluation :=
  match v.whole.resolve? c.text with
  | some rule => (some (rule.test value), none)
  | none =>
    match v.partials.search? value c with
    | some (i, passes) => (some passes, some ⟨i, c⟩)
    | none => (none, none)

/-- Checks modifiers in order until one does not pass. -/
def checkModifiers (v : Validator) (value : Value) :
    List Clause → ModifiersResult × List Evaluation
  | [] => (.passed, [])
  | c :: rest =>
    let (passes, ran) := v.decideModifier value c
    match passes with
    | some true =>
      let (result, more) := v.checkModifiers value rest
      (result, ran.toList ++ more)
    | some false => (.broken, ran.toList)
    | none => (.unknown c.text, ran.toList)

/-- Checks a value against a rule that names no class. -/
def checkDefinition (v : Validator) (p : Param) (rule : String) (d : RuleDefinition) : Report :=
  if d.hasPlaceholder then ⟨.error (.format p.name (.missingClassReference rule)), []⟩
  else
    match v.whole.resolve? d.typeClause.text with
    | none => ⟨.error (.format p.name (.unknownType d.typeClause.text)), []⟩
    | some typeRule =>
      if !typeRule.test p.value then ⟨.error (.validation p.name d.declared), []⟩
      else if p.value.isVoid then ⟨.ok (), []⟩
      else
        let (result, ran) := v.checkModifiers p.value d.modifiers
        ⟨result.outcome p.name d.declared, ran⟩

/-- Checks that a value is an instance of a class. -/
def checkClass (p : Param) (rule : String) (d : RuleDefinition) (c : ClassArg) : Outcome :=
  match d.classArticle? with
  | none => .error (.format p.name (.classShape rule))
  | some article =>
    if p.value.isInstanceOf c.ofClass then .ok ()
    else .error (.validation p.name [article ++ " " ++ c.label])

/-- Checks a parameter against a rule, or for being an instance of a class if there is one. -/
def check (v : Validator) (p : Param) (rule : String) (c : Option ClassArg) : Report :=
  match RuleDefinition.parse rule with
  | .error e => ⟨.error (.format p.name (.invalidPattern e.clause e.cause.message)), []⟩
  | .ok d =>
    match c with
    | some c => ⟨checkClass p rule d c, []⟩
    | none => v.checkDefinition p rule d

def validate (v : Validator) (p : Param) (rule : String) : Outcome :=
  (v.check p rule none).outcome

/-- Checks that a parameter is an instance of a class, by a rule that says so. -/
def validateInstance (v : Validator) (p : Param) (rule : String) (c : ClassArg) : Outcome :=
  (v.check p rule (some c)).outcome

end Validator

end Clausal
