import Clausal.Clause.Grammar
import Clausal.Text.Blank

/-!
# Clauses

A clause is one part of a rule, without blanks at its ends.  `Clause.parse` finds out once what kind
of clause a text is, so that checking a value reads operands instead of text.
-/

namespace Clausal

/-- The relation of a relational clause. -/
inductive ComparisonOp where
  | greater
  | greaterOrEqual
  | less
  | lessOrEqual
deriving DecidableEq

namespace ComparisonOp

/-- Whether the relation holds of a value that compares with the operand in a certain way. -/
def holds : ComparisonOp → Ordering → Bool
  | greater, o => o == .gt
  | greaterOrEqual, o => o != .lt
  | less, o => o == .lt
  | lessOrEqual, o => o != .gt

def symbol : ComparisonOp → String
  | greater => ">"
  | greaterOrEqual => ">="
  | less => "<"
  | lessOrEqual => "<="

def all : List ComparisonOp := [greater, greaterOrEqual, less, lessOrEqual]

/-- The pattern of the clauses with a relation. -/
def pattern : ComparisonOp → Pattern
  | greater => Grammar.greaterThan
  | greaterOrEqual => Grammar.greaterOrEqual
  | less => Grammar.lessThan
  | lessOrEqual => Grammar.lessOrEqual

end ComparisonOp

/-- The flag of a regular expression inside a clause. -/
inductive MatchFlag where
  /-- Letters match in either case. -/
  | ignoreCase
  /-- Letters match as they are. -/
  | global
deriving DecidableEq

def MatchFlag.letter : MatchFlag → Char
  | ignoreCase => 'i'
  | global => 'g'

/-- What kind of clause a text is, with its operands. -/
inductive ClauseKind where
  /-- The first clause of a rule, which names a type. -/
  | type
  /-- A bound on a number of characters: the numbers that the clause has. -/
  | bound (min max : Option Nat)
  /-- A relation to an operand. -/
  | comparison (op : ComparisonOp) (operand : String)
  /-- A regular expression that the value has to match. -/
  | pattern (regex : Pattern) (flag : MatchFlag)
  /-- Any other clause. -/
  | plain

/-- One part of a rule. -/
structure Clause where
  /-- The text, without blanks at its ends. -/
  text : String
  kind : ClauseKind

structure ClauseError where
  clause : String
  /-- What is wrong with the expression. -/
  cause : RegexError

namespace Clause

/-- The greatest number that a bound can have. -/
def boundLimit : Nat := 0xFFFFFFFFFFFFFFFF

/-- The number that a run of digits denotes; numbers beyond the limit become the limit. -/
def boundOfDigits (digits : String) : Nat :=
  min (Digit.number digits.toList) boundLimit

/-- The part of a text after its last space, or all of it if there is none. -/
def afterLastSpace (text : String) : String :=
  String.ofList (text.toList.reverse.takeWhile (· != ' ')).reverse

/-- The flag that a letter denotes, in either case. -/
def flagOfLetter (letter : String) : MatchFlag :=
  if letter.toList.map Char.toLower = ['i'] then .ignoreCase else .global

/-- The bound that a text is, if it is one. -/
def bound? (text : String) : Option ClauseKind :=
  match Grammar.lengthRange.captures? 2 text with
  | some [some low, some high] => some (.bound (boundOfDigits low) (boundOfDigits high))
  | _ =>
    match Grammar.lengthAtLeast.captures? 1 text with
    | some [some low] => some (.bound (boundOfDigits low) none)
    | _ =>
      match Grammar.lengthUpTo.captures? 1 text with
      | some [some high] => some (.bound none (boundOfDigits high))
      | _ => none

/-- The relation that a text is, if it is one. -/
def comparison? (text : String) : Option ClauseKind :=
  (ComparisonOp.all.find? fun op => op.pattern.isMatch text).map fun op =>
    .comparison op (afterLastSpace text)

/-- What kind of clause a text is that has no blanks at its ends. -/
def classify (text : String) : Except ClauseError ClauseKind :=
  match bound? text with
  | some kind => .ok kind
  | none =>
    match comparison? text with
    | some kind => .ok kind
    | none =>
      match Grammar.inlinePattern.captures? 3 text with
      | some [_, some source, some letter] =>
        let flag := flagOfLetter letter
        match Pattern.compile source (flag = .ignoreCase) with
        | .ok regex => .ok (.pattern regex flag)
        | .error cause => .error ⟨text, cause⟩
      | _ => .ok .plain

/-- Reads a clause that is not the first one of its rule. -/
def parse (text : String) : Except ClauseError Clause := do
  let trimmed := trim text
  return ⟨trimmed, ← classify trimmed⟩

/-- The first clause of a rule. -/
def ofType (text : String) : Clause :=
  ⟨trim text, .type⟩

end Clause

end Clausal
