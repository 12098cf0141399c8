import Clausal.Regex.ClassName
import Clausal.Regex.Layout
import Clausal.Text.CaseRule

/-!
# The meaning of a written regular expression

`Tree.toLayout` applies the flags to a regular expression as it is written and looks up the names of
its classes.  Flags that stand alone hold up to the end of their group, through all later branches.
Where the flag for Unicode is cleared, classes hold characters of ASCII, and what could match a byte
that is no character is an error.
-/

namespace Clausal

namespace Regex

structure Flags where
  ignoreCase : Bool := false
  multiLine : Bool := false
  dotAll : Bool := false
  /-- Repetitions are lazy unless they end with a question mark. -/
  swapGreed : Bool := false
  unicode : Bool := true
  returnLines : Bool := false

namespace Flags

/-- Sets or clears one flag. -/
def change (f : Flags) : Flag × Bool → Flags
  | (.ignoreCase, on) => { f with ignoreCase := on }
  | (.multiLine, on) => { f with multiLine := on }
  | (.dotAll, on) => { f with dotAll := on }
  | (.swapGreed, on) => { f with swapGreed := on }
  | (.unicode, on) => { f with unicode := on }
  | (.returnLines, on) => { f with returnLines := on }
  | (.spaced, _) => f

def changeAll (f : Flags) (changes : FlagChanges) : Flags :=
  changes.foldl change f

end Flags

/-- Whether all members of a set belong to ASCII. -/
def isAscii (s : CharSet) : Bool :=
  s.spans.all fun r => r.hi < 0x80

def bytes : CharSet := CharSet.ofText "0-FF"

/-- The members of a set of bytes and the letters of ASCII that differ from a member in case only.
-/
def closeUnderAsciiCase (s : CharSet) : CharSet :=
  let ascii : CaseRule := ⟨'A'.toNat, 'Z'.toNat, 1, 'a'.toNat⟩
  (s.union (CaseRule.images [ascii] s)).union (CaseRule.images [ascii.inverse] s)

/-- A set with the other case of its letters, where case is ignored. -/
def Flags.fold (f : Flags) (s : CharSet) : CharSet :=
  if f.ignoreCase then
    if f.unicode then s.closeUnderCase else closeUnderAsciiCase s
  else s

/-- Stops because of a fault. -/
def refuse {α : Type} (fault : Fault) (place : Extent) : Except PlacedFault α :=
  .error { fault, place }

/-- The members of a class after folding and negation.  Without Unicode they have to belong to
ASCII. -/
def Flags.finish (f : Flags) (negated : Bool) (s : CharSet) (place : Extent) :
    Except PlacedFault CharSet :=
  let folded := f.fold s
  if f.unicode then return if negated then folded.complement else folded
  else
    let set := if negated then bytes.diff folded else folded
    if isAscii set then return set else refuse .notCharacters place

/-- The code of a character inside brackets.  Without Unicode it has to be one of ASCII. -/
def Literal.code (f : Flags) (l : Literal) : Except PlacedFault Nat :=
  if f.unicode || l.char.toNat < 0x80 then return l.char.toNat
  else if l.byte then refuse .notCharacters l.place
  else refuse .unicodeNotAllowed l.place

/-- The set that two combined classes denote. -/
def ClassOperation.apply : ClassOperation → CharSet → CharSet → CharSet
  | .intersection, a, b => a.inter b
  | .difference, a, b => a.diff b
  | .symmetricDifference, a, b => a.symmDiff b

mutual

def ClassTree.members (f : Flags) : ClassTree → Except PlacedFault CharSet
  | .literal l => do return ⟨[Span.single (← l.code f)]⟩
  | .range first last => do return ⟨[Span.between (← first.code f) (← last.code f)]⟩
  | .short kind negated place =>
    if f.unicode then return if negated then kind.members.complement else kind.members
    else if negated then refuse .notCharacters place
    else return kind.asciiMembers
  | .ascii spans negated place => f.finish negated (CharSet.ofText spans) place
  | .named query negated place =>
    if !f.unicode then refuse .unicodeNotAllowed place
    else
      match query.members with
      | .ok set => f.finish negated set place
      | .error fault => refuse fault place
  | .bracketed negated body place => do f.finish negated (← body.members f) place
  | .union parts _ => ClassTree.allMembers f parts
  | .combined operation first second _ => do
    let a ← first.members f
    let b ← second.members f
    return operation.apply (f.fold a) (f.fold b)

def ClassTree.allMembers (f : Flags) : List ClassTree → Except PlacedFault CharSet
  | [] => return CharSet.empty
  | c :: cs => do
    let a ← c.members f
    let b ← ClassTree.allMembers f cs
    return a.union b

end

def Flags.dot (f : Flags) (place : Extent) : Except PlacedFault CharSet :=
  if !f.unicode then refuse .notCharacters place
  else if f.dotAll then return CharSet.all
  else if f.returnLines then return (CharSet.ofText "A D").complement
  else return (CharSet.singleton '\n').complement

def Flags.assertion (f : Flags) : WrittenAssertion → Assertion
  | .caret =>
    if f.multiLine then if f.returnLines then .returnLineStart else .lineStart else .textStart
  | .dollar =>
    if f.multiLine then if f.returnLines then .returnLineEnd else .lineEnd else .textEnd
  | .textStart => .textStart
  | .textEnd => .textEnd
  | .wordBoundary => .wordBoundary (!f.unicode)
  | .noWordBoundary => .noWordBoundary (!f.unicode)
  | .wordStart => .wordStart (!f.unicode)
  | .wordEnd => .wordEnd (!f.unicode)
  | .noWordBefore => .noWordBefore (!f.unicode)
  | .noWordAfter => .noWordAfter (!f.unicode)

/-- The set of characters that match one character. -/
def Flags.literal (f : Flags) (l : Literal) : Except PlacedFault CharSet :=
  if f.unicode then return f.fold (CharSet.singleton l.char)
  else if l.byte && 0x80 ≤ l.char.toNat then refuse .notCharacters l.place
  else if l.char.toNat < 0x80 then return f.fold (CharSet.singleton l.char)
  else return CharSet.singleton l.char

mutual

/-- The layout of a tree under flags, and the flags that hold after it.  Flags by themselves are an
empty expression, so they can be a branch of a choice. -/
def Tree.meaning (f : Flags) : Tree → Except PlacedFault (Layout × Flags)
  | .empty => return (.empty, f)
  | .literal l => do return (.ofSet (← f.literal l), f)
  | .dot place => do return (.ofSet (← f.dot place), f)
  | .assertion a _ => return (.assert (f.assertion a), f)
  | .charClass c => do return (.ofSet (← c.members f), f)
  | .flags changes => return (.empty, f.changeAll changes)
  | .repetition min max greedy body _ => do
    let (l, after) ← body.meaning f
    return (.ofRounds min max (greedy != f.swapGreed) l, after)
  | .group index changes body _ => do
    let (l, _) ← body.meaning (f.changeAll changes)
    match index with
    | some i => return (.capture i l, f)
    | none => return (l, f)
  | .concat parts _ => do
    let (ls, after) ← Tree.meanings f parts
    return (.ofParts ls, after)
  | .alternation parts _ => do
    let (ls, after) ← Tree.meanings f parts
    return (.ofBranches ls, after)

def Tree.meanings (f : Flags) : List Tree → Except PlacedFault (List Layout × Flags)
  | [] => return ([], f)
  | t :: ts => do
    let (l, after) ← t.meaning f
    let (ls, last) ← Tree.meanings after ts
    return (l :: ls, last)

end

def Tree.toLayout (ignoreCase : Bool) (t : Tree) : Except PlacedFault Layout := do
  let (l, _) ← t.meaning { ignoreCase := ignoreCase }
  return l

end Regex

end Clausal
