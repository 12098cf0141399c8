import Clausal.File.Basic
import Clausal.Registry
import Clausal.Toml.Reader

/-!
# Configurations

A configuration says whether letter case counts in phrases, and has settings for rules under their
names.  It is read from a TOML document; tables and keys that it does not know are passed over.
-/

namespace Clausal

structure RuleSettings where
  /-- Whether the rule is enabled, if that is set. -/
  enabled : Option Bool
  /-- The options, under their keys. -/
  options : List (String × Toml.Value)

/-- The text of an option, or a default if the option is missing or is no text. -/
def RuleSettings.text (s : RuleSettings) (key fallback : String) : String :=
  match s.options.lookup key with
  | some (.string t) => t
  | _ => fallback

structure Config where
  /-- Whether letter case counts in phrases. -/
  phraseCase : PhraseCase
  /-- The settings of rules, under their names. -/
  rules : List (String × RuleSettings)

/-- Why there is no configuration. -/
inductive ConfigError where
  | unreadable (path : String) (cause : FileError)
  /-- The text is not a configuration. -/
  | malformed
deriving DecidableEq

/-- The wording of an error; the details of malformed texts are left out. -/
def ConfigError.message : ConfigError → String
  | unreadable path cause => "Failed to read config file " ++ path ++ ": " ++ cause.message
  | malformed => "Failed to parse config: <toml error>"

namespace Toml

/-- The entries of a value that is made of entries.  A date or a time counts as a table with one
reserved key, under which its text stands. -/
def Value.entries? : Value → Option (List (String × Value))
  | table entries => some entries
  | datetime d => some [("$__toml_private_datetime", string d.toText)]
  | _ => none

/-- Whether a value has neither elements nor entries. -/
def Value.isEmpty : Value → Bool
  | table [] => true
  | array [] => true
  | _ => false

/-- The name of a choice between names: a text, or a table that has nothing but an empty value under
the name. -/
def Value.choice? : Value → Option String
  | string s => some s
  | table [(name, v)] => if v.isEmpty then some name else none
  | _ => none

end Toml

namespace Config

def empty : Config := ⟨.sensitive, []⟩

def rule? (c : Config) (name : String) : Option RuleSettings :=
  c.rules.lookup name

/-- Whether a rule is enabled; it is unless it is set not to be. -/
def isEnabled (c : Config) (name : String) : Bool :=
  match c.rule? name with
  | some settings => settings.enabled.getD true
  | none => true

/-- Reads the choice of how phrases are compared. -/
def phraseCase? (v : Toml.Value) : Option PhraseCase :=
  match v.choice? with
  | some "sensitive" => some .sensitive
  | some "insensitive" => some .insensitive
  | _ => none

/-- Reads the section about phrases.  Its one setting may also stand first in an array. -/
def validatorSection? : Toml.Value → Option PhraseCase
  | .array [] => some .sensitive
  | .array (first :: _) => phraseCase? first
  | v =>
    match v.entries? with
    | none => none
    | some entries =>
      match entries.lookup "phrase-case" with
      | none => some .sensitive
      | some choice => phraseCase? choice

def settings? (v : Toml.Value) : Option RuleSettings := do
  let entries ← v.entries?
  let enabled ← match entries.lookup "enabled" with
    | none => some none
    | some (.boolean b) => some (some b)
    | some _ => none
  return ⟨enabled, entries.filter fun (key, _) => key != "enabled"⟩

def rulesSection? (v : Toml.Value) : Option (List (String × RuleSettings)) := do
  (← v.entries?).mapM fun (name, settings) => do return (name, ← settings? settings)

/-- The configuration that the entries of a document describe. -/
def ofEntries? (entries : List (String × Toml.Value)) : Option Config := do
  let phraseCase ← match entries.lookup "validator" with
    | none => some .sensitive
    | some v => validatorSection? v
  let rules ← match entries.lookup "rules" with
    | none => some []
    | some v => rulesSection? v
  return ⟨phraseCase, rules⟩

def parse (text : String) : Except ConfigError Config :=
  match (Toml.ofText? text).bind ofEntries? with
  | some c => .ok c
  | none => .error .malformed

/-- Reads a configuration from the contents of a file. -/
def ofFile (path : String) (contents : Except FileError String) : Except ConfigError Config :=
  match contents with
  | .ok text => parse text
  | .error cause => .error (.unreadable path cause)

end Config

end Clausal
