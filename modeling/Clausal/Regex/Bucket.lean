import Clausal.Regex.Basic

/-!
# Sets of expressions

A search asks again and again whether it has met an expression before.  `Buckets` is a set of
expressions in which each is kept in one of many short lists, which a number computed from the
expression selects.
-/

namespace Clausal

namespace Regex

/-- The numbers of expressions are less than this. -/
def keyLimit : Nat := 65521

/-- The number of an expression; different expressions mostly have different numbers. -/
def key : Regex → Nat
  | .empty => 1
  | .chars set => (2 + (set.spans.head?.map (·.lo)).getD 0) % keyLimit
  | .assert _ => 3
  | .mark slot => (5 + slot) % keyLimit
  | .seq r s => (31 * r.key + s.key + 7) % keyLimit
  | .alt r s => (37 * r.key + s.key + 11) % keyLimit
  | .repeated min max _ r => (41 * r.key + 257 * min + 263 * max.getD keyLimit + 13) % keyLimit

/-- A set of expressions. -/
inductive Buckets where
  /-- No expressions. -/
  | empty
  /-- The expressions of one number. -/
  | members (rs : List Regex)
  /-- The expressions with even numbers and those with odd ones. -/
  | branch (even odd : Buckets)

namespace Buckets

/-- How many bits of a number select a list. -/
def depth : Nat := 12

/-- Adds an expression below a branch that `bits` more bits of its number lead on from. -/
def insertAt (r : Regex) : Nat → Nat → Buckets → Buckets
  | 0, _, members rs => members (r :: rs)
  | 0, _, _ => members [r]
  | bits + 1, key, branch even odd =>
    if key % 2 = 0 then branch (insertAt r bits (key / 2) even) odd
    else branch even (insertAt r bits (key / 2) odd)
  | bits + 1, key, _ =>
    if key % 2 = 0 then branch (insertAt r bits (key / 2) empty) empty
    else branch empty (insertAt r bits (key / 2) empty)

/-- Whether an expression is below a branch that `bits` more bits of its number lead on from. -/
def containsAt (r : Regex) : Nat → Nat → Buckets → Bool
  | 0, _, members rs => rs.contains r
  | bits + 1, key, branch even odd =>
    if key % 2 = 0 then containsAt r bits (key / 2) even else containsAt r bits (key / 2) odd
  | _, _, _ => false

/-- Adds an expression. -/
def insert (b : Buckets) (r : Regex) : Buckets := insertAt r depth r.key b

/-- Whether an expression has been added. -/
def contains (b : Buckets) (r : Regex) : Bool := containsAt r depth r.key b

end Buckets

end Regex

end Clausal
