/-!
# Failures of a check

A check fails either because the value breaks the rule or because the rule cannot be understood.
Each failure says why, and has one wording.
-/

namespace Clausal

/-- Why a rule cannot be understood. -/
inductive FormatReason where
  /-- The type clause is no known phrase. -/
  | unknownType (clause : String)
  /-- A modifier is neither a known phrase nor matched by a rule. -/
  | unknownModifier (clause : String)
  /-- A regular expression in a clause cannot be read. -/
  | invalidPattern (clause message : String)
  /-- A rule for a class check is not an article and the token for a class. -/
  | classShape (rule : String)
  /-- A rule contains the token for a class, but there is no class. -/
  | missingClassReference (rule : String)
deriving DecidableEq

/-- Why a check fails. -/
inductive Failure where
  /-- The value breaks the rule, whose clauses are listed. -/
  | validation (name : String) (rules : List String)
  /-- The rule cannot be understood. -/
  | format (name : String) (reason : FormatReason)
deriving DecidableEq

def FormatReason.message : FormatReason → String
  | unknownType clause => "unknown type clause \x60" ++ clause ++ "\x60"
  | unknownModifier clause => "unknown modifier clause \x60" ++ clause ++ "\x60"
  | invalidPattern clause message =>
    "invalid regular expression in \x60" ++ clause ++ "\x60: " ++ message
  | classShape rule =>
    "class check expects \x60a \x7b\x7d\x60 or \x60an \x7b\x7d\x60, got \x60" ++ rule ++ "\x60"
  | missingClassReference rule =>
    "rule \x60" ++ rule ++ "\x60 refers to a class but none was supplied"

namespace Failure

def name : Failure → String
  | validation n _ => n
  | format n _ => n

def message : Failure → String
  | validation name rules => "'" ++ name ++ "' must be " ++ ", ".intercalate rules
  | format name reason =>
    "format for parameter '" ++ name ++ "' is invalid: " ++ reason.message

def code : Failure → String
  | validation .. => "enforce::validation"
  | format .. => "enforce::format"

/-- What can be done about a failure. -/
def help? : Failure → Option String
  | validation .. => none
  | format .. => some "fix the rule string at the call site; the value was not checked"

/-- Whether the value breaks the rule. -/
def isValidation : Failure → Bool
  | validation .. => true
  | format .. => false

/-- Whether the rule cannot be understood. -/
def isFormat : Failure → Bool
  | validation .. => false
  | format .. => true

end Failure

end Clausal
