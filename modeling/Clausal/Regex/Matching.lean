import Clausal.Regex.Basic

/-!
# What a regular expression matches

`Regex.Matches r p marks q marks'` says that the expression `r` matches the characters between the
places `p` and `q` of a text, and that the marks recorded on the way turn `marks` into `marks'`.
The relation says which matches there are; which of them a search prefers is no part of it.
-/

namespace Clausal

/-- Recorded places, the latest one first: the number of a mark and an offset. -/
abbrev Marks := List (Nat × Nat)

namespace Regex

/-- The matches of an expression between two places of a text. -/
inductive Matches : Regex → Place → Marks → Place → Marks → Prop where
  /-- The empty text is matched without reading. -/
  | empty {p : Place} {m : Marks} : Matches .empty p m p m
  /-- A set matches each of its characters. -/
  | chars {set : CharSet} {before after : List Char} {c : Char} {m : Marks}
      (mem : set.contains c = true) :
      Matches (.chars set) ⟨before, c :: after⟩ m ⟨c :: before, after⟩ m
  /-- An assertion reads nothing, and holds where it is. -/
  | assert {a : Assertion} {p : Place} {m : Marks} (holds : a.holdsAt p = true) :
      Matches (.assert a) p m p m
  /-- A mark reads nothing and records where it is. -/
  | mark {slot : Nat} {p : Place} {m : Marks} :
      Matches (.mark slot) p m p ((slot, p.offset) :: m)
  /-- A sequence goes on where its first part ends. -/
  | seq {r s : Regex} {p q t : Place} {m n o : Marks} (first : Matches r p m q n)
      (second : Matches s q n t o) : Matches (.seq r s) p m t o
  /-- A choice matches what its first branch does. -/
  | altLeft {r s : Regex} {p q : Place} {m n : Marks} (left : Matches r p m q n) :
      Matches (.alt r s) p m q n
  /-- A choice matches what its second branch does. -/
  | altRight {r s : Regex} {p q : Place} {m n : Marks} (right : Matches s p m q n) :
      Matches (.alt r s) p m q n
  /-- A repetition that needs no more rounds may end. -/
  | repeatedDone {max : Option Nat} {greedy : Bool} {r : Regex} {p : Place} {m : Marks} :
      Matches (.repeated 0 max greedy r) p m p m
  /-- A repetition that may have more rounds goes on after one of them. -/
  | repeatedMore {min : Nat} {max : Option Nat} {greedy : Bool} {r : Regex} {p q t : Place}
      {m n o : Marks} (limit : max ≠ some 0) (first : Matches r p m q n)
      (others : Matches (.repeated (min - 1) (max.map (· - 1)) greedy r) q n t o) :
      Matches (.repeated min max greedy r) p m t o

/-- Whether an expression matches some part of a text. -/
def MatchesIn (r : Regex) (text : List Char) : Prop :=
  ∃ p q : Place, ∃ m : Marks,
    p.before.reverse ++ p.after = text ∧ Matches r p [] q m

end Regex

end Clausal
