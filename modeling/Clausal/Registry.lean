import Clausal.Rule.Basic
import Clausal.Text.LowerCase

/-!
# Registries of rules

`WholeRegistry` finds whole rules by their phrase.  It keeps the rules in the order in which their
phrases were first inserted; a rule inserted under a known phrase takes the place of the earlier
one.  `PartialRegistry` keeps partial rules in order of priority; a registered rule comes after all
others, and the first rule whose pattern matches a clause decides it.
-/

namespace Clausal

/-- Whether letter case counts when phrases are compared. -/
inductive PhraseCase where
  | sensitive
  | insensitive
deriving DecidableEq

/-- The form of a phrase by which phrases are compared. -/
def PhraseCase.key (case : PhraseCase) (phrase : String) : String :=
  match case with
  | sensitive => phrase
  | insensitive => lowerCase phrase

/-- Whole rules under their phrases. -/
structure WholeRegistry where
  case : PhraseCase
  /-- The rules, in the order in which their phrases were first inserted. -/
  rules : List WholeRule
  /-- For each key the position of its rule. -/
  slots : List (String × Nat)

namespace WholeRegistry

def empty (case : PhraseCase) : WholeRegistry := ⟨case, [], []⟩

/-- Inserts a rule in place of the one with the same key, or else after all others. -/
def insert (w : WholeRegistry) (rule : WholeRule) : WholeRegistry :=
  let key := w.case.key rule.phrase
  match w.slots.lookup key with
  | some slot => { w with rules := w.rules.set slot rule }
  | none => { w with rules := w.rules ++ [rule], slots := w.slots ++ [(key, w.rules.length)] }

def insertAll (w : WholeRegistry) (rules : List WholeRule) : WholeRegistry :=
  rules.foldl insert w

def resolve? (w : WholeRegistry) (phrase : String) : Option WholeRule :=
  (w.slots.lookup (w.case.key phrase)).bind fun slot => w.rules[slot]?

def size (w : WholeRegistry) : Nat := w.rules.length

end WholeRegistry

/-- Partial rules in order of priority. -/
structure PartialRegistry where
  /-- The rules, the one with the highest priority first. -/
  rules : List PartialRule

namespace PartialRegistry

def empty : PartialRegistry := ⟨[]⟩

/-- Adds a rule with the lowest priority. -/
def register (p : PartialRegistry) (rule : PartialRule) : PartialRegistry :=
  ⟨p.rules ++ [rule]⟩

def registerAll (p : PartialRegistry) (rules : List PartialRule) : PartialRegistry :=
  ⟨p.rules ++ rules⟩

def size (p : PartialRegistry) : Nat := p.rules.length

/-- The position of the rule that decides a clause. -/
def findIndex? (p : PartialRegistry) (c : Clause) : Option Nat :=
  p.rules.findIdx? (·.appliesTo c)

/-- Decides a clause: the position of the rule that does, and whether the value passes. -/
def search? (p : PartialRegistry) (v : Value) (c : Clause) : Option (Nat × Bool) :=
  (p.findIndex? c).bind fun i => p.rules[i]?.map fun r => (i, r.evaluate v c)

/-- The text that lists the names of the rules. -/
def namesText (p : PartialRegistry) : String :=
  "[" ++ ", ".intercalate (p.rules.map fun r => Quoted.encode r.name) ++ "]"

def describe (p : PartialRegistry) : String :=
  "PartialRuleRegistry \x7b rules: " ++ p.namesText ++ " \x7d"

end PartialRegistry

end Clausal
