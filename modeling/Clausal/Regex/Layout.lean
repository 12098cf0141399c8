import Clausal.Regex.Basic

/-!
# The layout of regular expressions

A `Layout` is a regular expression with the flags applied and the parts put together that belong
together: sequences and choices are flat, neighbouring characters are one text, and a choice
between single characters is a set.  An automaton for an expression is laid out along it, so its
form decides how large the automaton gets; what it matches is said by `Layout.toRegex`.
-/

namespace Clausal

namespace Regex

/-- A regular expression in the form that an automaton for it is laid out along. -/
inductive Layout where
  | empty
  /-- Characters one after the other, by their code points. -/
  | literal (codes : List Nat)
  | set (members : CharSet)
  | assert (a : Assertion)
  /-- A group that is recorded under a number. -/
  | capture (index : Nat) (body : Layout)
  | rounds (min : Nat) (max : Option Nat) (greedy : Bool) (body : Layout)
  | concat (parts : List Layout)
  /-- One of several branches, an earlier one by preference. -/
  | choice (branches : List Layout)

namespace Layout

mutual

/-- Whether two layouts are the same. -/
def same : Layout → Layout → Bool
  | empty, empty => true
  | literal a, literal b => a == b
  | set a, set b => a == b
  | assert a, assert b => a == b
  | capture i a, capture j b => i == j && same a b
  | rounds min max greedy a, rounds min' max' greedy' b =>
    min == min' && max == max' && greedy == greedy' && same a b
  | concat as, concat bs => sameAll as bs
  | choice as, choice bs => sameAll as bs
  | _, _ => false

def sameAll : List Layout → List Layout → Bool
  | [], [] => true
  | a :: as, b :: bs => same a b && sameAll as bs
  | _, _ => false

end

mutual

/-- Whether a layout never reads a character. -/
def readsNothing : Layout → Bool
  | empty | assert _ => true
  | literal _ | set _ => false
  | capture _ body => body.readsNothing
  | rounds _ max _ body => max == some 0 || body.readsNothing
  | concat parts => allReadNothing parts
  | choice branches => allReadNothing branches

def allReadNothing : List Layout → Bool
  | [] => true
  | l :: ls => l.readsNothing && allReadNothing ls

end

/-- One character of a set; the only member of a set stands for itself. -/
def ofSet (members : CharSet) : Layout :=
  match members.spans with
  | [s] => if s.lo = s.hi then literal [s.lo] else set members
  | _ => set members

/-- A repetition.  Rounds that cannot read anything take place once at most. -/
def ofRounds (min : Nat) (max : Option Nat) (greedy : Bool) (body : Layout) : Layout :=
  let (least, most) :=
    if body.readsNothing then (Nat.min min 1, some (Nat.min (max.getD 1) 1)) else (min, max)
  if least = 0 && most == some 0 then empty
  else if least = 1 && most == some 1 then body
  else rounds least most greedy body

/-- The parts that a layout contributes to a sequence. -/
def parts : Layout → List Layout
  | empty => []
  | concat ps => ps
  | l => [l]

/-- Puts texts together that are neighbours. -/
def joinLiterals : List Layout → List Layout
  | [] => []
  | literal codes :: rest =>
    match joinLiterals rest with
    | literal more :: others => literal (codes ++ more) :: others
    | others => literal codes :: others
  | l :: rest => l :: joinLiterals rest

/-- Layouts one after the other. -/
def ofParts (ls : List Layout) : Layout :=
  match joinLiterals (ls.flatMap parts) with
  | [] => empty
  | [l] => l
  | ps => concat ps

/-- The branches that a layout contributes to a choice. -/
def branches : Layout → List Layout
  | choice bs => bs
  | l => [l]

/-- The code point of a layout that is a single character. -/
def code? : Layout → Option Nat
  | literal [code] => some code
  | _ => none

/-- The members of a layout that is a set. -/
def members? : Layout → Option CharSet
  | set members => some members
  | _ => none

/-- The set that branches denote together if all of them are single characters, or all are sets. -/
def commonSet? (bs : List Layout) : Option CharSet :=
  match bs.mapM code? with
  -- Single characters count as sets only among themselves.
  | some codes => some (CharSet.ofSpans (codes.map Span.single))
  | none => (bs.mapM members?).map fun sets => sets.foldl CharSet.union CharSet.empty

/-- The parts that two sequences begin with alike. -/
def sharedParts : List Layout → List Layout → List Layout
  | a :: as, b :: bs => if a.same b then a :: sharedParts as bs else []
  | _, _ => []

/-- The parts that all branches begin with, if all of them are sequences. -/
def sharedPrefix : List Layout → List Layout
  | [] => []
  | [concat ps] => ps
  | concat ps :: rest => sharedParts ps (sharedPrefix rest)
  | _ => []

/-- A choice between branches that have nothing in common at their beginnings. -/
def ofDistinctBranches (ls : List Layout) : Layout :=
  match ls.flatMap branches with
  | [] => set CharSet.empty
  | [l] => l
  | bs =>
    match commonSet? bs with
    | some members => ofSet members
    | none => choice bs

/-- A choice between branches.  What all of them begin with comes before the choice. -/
def ofBranches (ls : List Layout) : Layout :=
  match ofDistinctBranches ls with
  | choice bs =>
    let first := sharedPrefix bs
    if first.isEmpty then choice bs
    else
      -- Without their common beginnings the branches may be single characters, and make a set.
      let rest := bs.map fun b => ofParts (b.parts.drop first.length)
      ofParts (first ++ [ofDistinctBranches rest])
  | l => l

mutual

/-- The regular expression that a layout denotes. -/
def toRegex : Layout → Regex
  | empty => .empty
  | literal codes => Regex.seqs (codes.map fun n => .chars ⟨[Span.single n]⟩)
  | set members => .chars members
  | assert a => .assert a
  | capture index body => Regex.group index body.toRegex
  | rounds min max greedy body => .repeated min max greedy body.toRegex
  | concat parts => Regex.seqs (partRegexes parts)
  | choice branches => Regex.alts (branchRegexes branches)

/-- The regular expressions that the parts of a sequence denote, one for each character of a
text. -/
def partRegexes : List Layout → List Regex
  | [] => []
  | literal codes :: ls => codes.map (fun n => .chars ⟨[Span.single n]⟩) ++ partRegexes ls
  | l :: ls => l.toRegex :: partRegexes ls

def branchRegexes : List Layout → List Regex
  | [] => []
  | l :: ls => l.toRegex :: branchRegexes ls

end

end Layout

end Regex

end Clausal
