import Clausal.Builtin.Phrases
import Clausal.Builtin.Preset
import Clausal.PatternRule.Document
import Clausal.Validator

/-!
# Validators with the built-in rules

The standard validator has all built-in phrases and rules.  A configuration can leave rules out and
change what they do, and a TOML document can add rules of its own, which come after the built-in
ones.
-/

namespace Clausal

/-- Why there is no validator. -/
inductive SetupError where
  /-- There is no configuration. -/
  | config (cause : ConfigError)
  /-- The configuration has an option that a built-in rule does not know. -/
  | preset (cause : PresetError)
  /-- The rules of the document cannot be made. -/
  | patterns (cause : PatternsError)
deriving DecidableEq

def SetupError.message : SetupError → String
  | config cause => cause.message
  | preset cause => cause.message
  | patterns cause => "declarative config error: " ++ cause.message

namespace Validator

/-- The validator with all built-in rules. -/
def standard : Validator := ofRules .sensitive Builtin.phrases (Builtin.rules .atLeast)

/-- The validator with the built-in rules as configured. -/
def ofConfig (c : Config) : Except PresetError Validator :=
  (Builtin.configuredRules c).map (ofRules c.phraseCase Builtin.phrases)

/-- Adds rules, one after the other, with the lowest priority. -/
def registerAll (v : Validator) (rules : List PartialRule) : Validator :=
  rules.foldl register v

/-- The validator that a TOML document describes. -/
def ofToml (text : String) : Except SetupError Validator := do
  let config ← (Config.parse text).mapError .config
  let configured ← (ofConfig config).mapError .preset
  let patterns ← (PatternRules.ofToml text).mapError .patterns
  return configured.registerAll patterns.toPartialRules

/-- The validator that the contents of a file describe. -/
def ofFile (path : String) (contents : Except FileError String) : Except SetupError Validator :=
  match contents with
  | .ok text => ofToml text
  | .error cause => .error (.config (.unreadable path cause))

end Validator

end Clausal
