import Clausal.Main
import Clausal.Regex.Matching
import Clausal.Value.Call
import Clausal.Proofs.Validator.Stages
import Clausal.Proofs.Validator.Registration
import Clausal.Proofs.Validator.Blame
import Clausal.Proofs.Validator.Evaluations
import Clausal.Proofs.Validator.Restriction
import Clausal.Proofs.Validator.NormalForm
import Clausal.Proofs.Validator.EqualValues
import Clausal.Proofs.Validator.ClassCheck
import Clausal.Proofs.Value.Equality
import Clausal.Proofs.Value.Fields
import Clausal.Proofs.Value.PartialEquivalence
import Clausal.Proofs.Value.Data
import Clausal.Proofs.Text.Words
import Clausal.Proofs.Setup
import Clausal.Proofs.Rule.Parts
import Clausal.Proofs.Rule.NormalForm
import Clausal.Proofs.Rule.ClassForm
import Clausal.Proofs.Validator.Composition
import Clausal.Proofs.Regex.Matching
import Clausal.Proofs.Regex.Moves
import Clausal.Proofs.Regex.Search
import Clausal.Proofs.Regex.Compound
import Clausal.Proofs.Clause.Grammar
import Clausal.Proofs.Clause.Shape
import Clausal.Proofs.Clause.Operands
import Clausal.Proofs.Clause.Reading
import Clausal.Proofs.Builtin.Agreement
import Clausal.Proofs.Builtin.Phrases
import Clausal.Proofs.Builtin.Disabling
import Clausal.Proofs.Builtin.PhraseCase
import Clausal.Proofs.Builtin.Settings
import Clausal.Proofs.PatternRule.Entries
import Clausal.Proofs.Registry.Order
import Clausal.Proofs.Validator.AnyValue
import Clausal.Proofs.Builtin.Lengths
import Clausal.Proofs.Builtin.Relations
import Clausal.Proofs.Validator.OptionalPhrases
import Clausal.Proofs.Validator.Document
import Clausal.Proofs.Command.ConfigSource
import Clausal.Proofs.Json.Text
import Clausal.Proofs.Command.Check
import Clausal.Proofs.Command.Template
