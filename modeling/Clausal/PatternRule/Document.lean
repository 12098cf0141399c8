import Clausal.Config
import Clausal.PatternRule.Basic
import Clausal.Value.Data

/-!
# Rules in documents

The section `patterns` of a TOML document lists rules that are described by data.  A `PatternEntry`
is one of them as it is written; making rules of the entries reports the first entry that is at
fault, and repeated names only if no entry is.
-/

namespace Clausal

/-- A rule as it is written in a document. -/
structure PatternEntry where
  name : String
  /-- The pattern of the clauses. -/
  pattern : String
  /-- Whether letter case does not count in clauses. -/
  ignoreCase : Bool
  /-- What the clauses look like. -/
  description : Option String
  equals : Option Toml.Value
  oneOf : Option (List Toml.Value)
  /-- The pattern that a text has to match. -/
  matching : Option String

/-- Why a document gives no rules. -/
inductive PatternsError where
  /-- The text is no TOML document with a list of entries. -/
  | malformed
  /-- A part of an entry is at fault. -/
  | invalid (context : String) (cause : PatternRuleError)
  /-- An entry has no check, or several. -/
  | ambiguousCheck (context : String)
  /-- The entries do not go together. -/
  | conflicting (causes : List PatternRuleError)
deriving DecidableEq

/-- The wording of an error; the details of malformed texts are left out. -/
def PatternsError.message : PatternsError → String
  | malformed => "TOML parse error: <toml error>"
  | invalid context cause => context ++ ": " ++ cause.message
  | ambiguousCheck context =>
    context ++ ": exactly one of \x60equals\x60, \x60one-of\x60 or \x60matches\x60 must be set"
  | conflicting causes =>
    "configuration validation errors:\n" ++
      "\n".intercalate (causes.map fun e => "  - " ++ e.message)

namespace PatternEntry

def text? : Toml.Value → Option String
  | .string s => some s
  | _ => none

def flag? : Toml.Value → Option Bool
  | .boolean b => some b
  | _ => none

/-- The elements, if a value is an array. -/
def items? : Toml.Value → Option (List Toml.Value)
  | .array items => some items
  | _ => none

/-- Reads a value that may be left out; it is an error if it is there and cannot be read. -/
def optional {α : Type} (read : Toml.Value → Option α) : Option Toml.Value → Option (Option α)
  | none => some none
  | some v => (read v).map some

/-- The entry whose parts are found by their keys. -/
def ofParts? (part : String → Option Toml.Value) : Option PatternEntry := do
  let name ← (part "name").bind text?
  let pattern ← (part "pattern").bind text?
  let ignoreCase ← optional flag? (part "ignore-case")
  let description ← optional text? (part "description")
  let oneOf ← optional items? (part "one-of")
  let matching ← optional text? (part "matches")
  return {
    name, pattern, description, oneOf, matching
    ignoreCase := ignoreCase.getD false
    equals := part "equals" }

/-- The keys of the parts of an entry, in the order in which an array has the parts. -/
def keys : List String :=
  ["name", "pattern", "ignore-case", "description", "equals", "one-of", "matches"]

/-- Reads an entry: a table, or an array of parts in a fixed order. -/
def ofToml? : Toml.Value → Option PatternEntry
  | .array parts => ofParts? fun key => (keys.zip parts).lookup key
  | v => v.entries?.bind fun entries => ofParts? fun key => entries.lookup key

/-- The check of an entry; `context` says where the entry is. -/
def check (e : PatternEntry) (context : String) : Except PatternsError Check :=
  match e.equals, e.oneOf, e.matching with
  | some v, none, none => .ok (.equals (Value.ofToml v))
  | none, some vs, none => .ok (.oneOf (Value.ofTomlItems vs))
  | none, none, some source =>
    match Pattern.ofSource source false with
    | .ok p => .ok (.matching p)
    | .error cause => .error (.invalid (context ++ ".matches") cause)
  | _, _, _ => .error (.ambiguousCheck context)

/-- The rule of an entry; `position` says which entry of its list it is. -/
def toRule (e : PatternEntry) (position : Nat) : Except PatternsError PatternRule := do
  let context := "patterns[" ++ Nat.repr position ++ "]"
  let name ← (RuleName.ofText e.name).mapError (.invalid (context ++ ".name"))
  let pattern ← (Pattern.ofSource e.pattern e.ignoreCase).mapError
    (.invalid (context ++ ".pattern"))
  return ⟨name, pattern, e.description, ← e.check context⟩

/-- The rules of entries; the first of them has a certain position. -/
def toRules : Nat → List PatternEntry → Except PatternsError (List PatternRule)
  | _, [] => .ok []
  | position, e :: rest => do
    let rule ← e.toRule position
    return rule :: (← toRules (position + 1) rest)

end PatternEntry

namespace PatternRules

def entries? (document : List (String × Toml.Value)) : Option (List PatternEntry) :=
  match document.lookup "patterns" with
  | none => some []
  | some v => (PatternEntry.items? v).bind fun items => items.mapM PatternEntry.ofToml?

def ofEntries (entries : List PatternEntry) : Except PatternsError PatternRules := do
  (ofList (← PatternEntry.toRules 0 entries)).mapError .conflicting

/-- Reads the rules of a document. -/
def ofToml (text : String) : Except PatternsError PatternRules :=
  match (Toml.ofText? text).bind entries? with
  | none => .error .malformed
  | some entries => ofEntries entries

end PatternRules

end Clausal
