import Clausal.Regex.ByteSequence
import Clausal.Regex.Fault
import Clausal.Regex.Layout

/-!
# The size of automata

An automaton for an expression reads bytes, and is laid out along the expression: rounds are written
out, and a set becomes states for the byte sequences of its members, some of which are shared.
Besides the automaton that reads forwards there is one that reads backwards.  Both are laid out here
as far as their size is concerned, state by state, and `Layout.fits` says whether both keep to the
limit.

States are numbered in the order in which they are made.  The numbers matter, as what has been made
of a set before is remembered in a table of limited size, under a key that is computed from them.
-/

namespace Clausal

namespace Regex

/-- The room that a state takes. -/
def stateSize : Nat := 32

/-- The room that each branch takes in a state with branches. -/
def branchSize : Nat := 4

/-- The room that each range of bytes takes in a state that has a table of them. -/
def rangeSize : Nat := 8

/-- How far an automaton has been laid out. -/
structure Automaton where
  /-- How many states there are; also the number of the next one. -/
  states : Nat := 0
  /-- The room that states take besides their own. -/
  extra : Nat := 0

def Automaton.size (a : Automaton) : Nat := stateSize * a.states + a.extra

/-- A step of laying out an automaton, which stops when there is no room left. -/
abbrev Build := StateT Automaton Option

namespace Build

/-- Takes up room for some states and for what they hold. -/
def grow (states extra : Nat) : Build Unit := fun a =>
  let grown : Automaton := ⟨a.states + states, a.extra + extra⟩
  if sizeLimit < grown.size then none else some ((), grown)

/-- Makes a state with a number of byte ranges in a table, and returns its number. -/
def state (ranges : Nat) : Build Nat := do
  let number := (← get).states
  grow 1 (rangeSize * ranges)
  return number

/-- Adds branches to states. -/
def branches (count : Nat) : Build Unit := grow 0 (branchSize * count)

end Build

/-! ### Tables of limited size -/

/-- Numbered slots, as a tree along the bits of their numbers. -/
inductive Slots (α : Type) where
  | empty
  | slot (content : α)
  | fork (even odd : Slots α)

namespace Slots

variable {α : Type}

/-- Fills a slot, `bits` bits below the root. -/
def set (content : α) : Nat → Nat → Slots α → Slots α
  | 0, _, _ => slot content
  | bits + 1, n, fork even odd =>
    if n % 2 = 0 then fork (even.set content bits (n / 2)) odd
    else fork even (odd.set content bits (n / 2))
  | bits + 1, n, _ =>
    if n % 2 = 0 then fork (empty.set content bits (n / 2)) empty
    else fork empty (empty.set content bits (n / 2))

def get? : Nat → Nat → Slots α → Option α
  | 0, _, slot content => some content
  | bits + 1, n, fork even odd =>
    if n % 2 = 0 then even.get? bits (n / 2) else odd.get? bits (n / 2)
  | _, _, _ => none

end Slots

/-- Mixes a number into a hash of sixty-four bits. -/
def mixHash (hash n : Nat) : Nat :=
  (Nat.xor hash n * 1099511628211) % 0x10000000000000000

def hashOf (ns : List Nat) : Nat := ns.foldl mixHash 14695981039346656037

/-- What is remembered under keys, each in the slot that its hash selects; what was there before is
forgotten. -/
structure Memory (key : Type) where
  capacity : Nat
  slots : Slots (key × Nat) := .empty

namespace Memory

variable {key : Type} [BEq key]

/-- How many bits the numbers of slots have. -/
def slotBits : Nat := 14

def find? (m : Memory key) (hash : Nat) (k : key) : Option Nat :=
  match m.slots.get? slotBits (hash % m.capacity) with
  | some (k', n) => if k' == k then some n else none
  | none => none

def remember (m : Memory key) (hash : Nat) (k : key) (n : Nat) : Memory key :=
  { m with slots := m.slots.set (k, n) slotBits (hash % m.capacity) }

end Memory

/-! ### Sets -/

/-- A range of bytes, with the number of the state that reading one of them leads to. -/
structure Transition where
  range : ByteRange
  next : Nat
deriving DecidableEq

/-- The numbers that a hash of transitions is computed from. -/
def Transition.numbers (t : Transition) : List Nat := [t.range.first, t.range.last, t.next]

/-- A state for byte sequences that is not complete. -/
structure OpenState where
  /-- What is complete, the latest transition first. -/
  done : List Transition := []
  /-- The range whose next state is still open. -/
  last : Option ByteRange

/-- Completes the last transition of a state. -/
def OpenState.close (s : OpenState) (next : Nat) : List Transition :=
  match s.last with
  | some range => ⟨range, next⟩ :: s.done
  | none => s.done

/-- A step of laying out a set forwards. -/
abbrev BuildForwards := StateT (Memory (List Transition)) Build

namespace BuildForwards

/-- A state with transitions, the latest one first; one that is remembered is used again. -/
def finish (transitions : List Transition) : BuildForwards Nat := do
  let hash := hashOf (transitions.reverse.flatMap Transition.numbers)
  match (← get).find? hash transitions with
  | some number => return number
  | none =>
    let number ← Build.state transitions.length
    modify (·.remember hash transitions number)
    return number

/-- Completes states that lead from one to the next, up to the state `target`. -/
def finishAll (target : Nat) : List OpenState → BuildForwards Nat
  | [] => return target
  | s :: rest => do
    let next ← finishAll target rest
    finish (s.close next)

/-- Adds a byte sequence to open states, which lead from one to the next.  The part that it has in
common with the sequence before stays open. -/
def addSequence (target : Nat) :
    List OpenState → List ByteRange → BuildForwards (List OpenState)
  | s :: rest, range :: ranges =>
    if s.last = some range then return s :: (← addSequence target rest ranges)
    else do
      let next ← finishAll target rest
      return ⟨s.close next, some range⟩ :: ranges.map fun r => { last := some r }
  | states, _ => return states

def addSequences (target : Nat) :
    List OpenState → List (List ByteRange) → BuildForwards (List OpenState)
  | states, [] => return states
  | states, s :: rest => do addSequences target (← addSequence target states s) rest

def capacity : Nat := 10000

def sequences (target : Nat) (ss : List (List ByteRange)) : BuildForwards Unit := do
  let states ← addSequences target [{ last := none }] ss
  let _ ← finishAll target states

end BuildForwards

/-- The key of a state that reads one range of bytes: the state that it leads to, and the range. -/
abbrev BackwardKey := Nat × ByteRange

/-- A step of laying out a set backwards. -/
abbrev BuildBackwards := StateT (Memory BackwardKey) Build

namespace BuildBackwards

/-- Adds the states for a byte sequence, from its first byte on, which is read last; `next` is the
state that the first one leads to. -/
def addSequence : Nat → List ByteRange → BuildBackwards Unit
  | _, [] => Build.branches 1
  | next, range :: ranges => do
    let hash := hashOf [next, range.first, range.last]
    match (← get).find? hash (next, range) with
    | some number => addSequence number ranges
    | none =>
      let number ← Build.state 0
      modify (·.remember hash (next, range) number)
      addSequence number ranges

def capacity : Nat := 1000

def sequences (target : Nat) : List (List ByteRange) → BuildBackwards Unit
  | [] => return
  | s :: rest => do
    addSequence target s
    sequences target rest

end BuildBackwards

/-- Lays out the states for a set. -/
def Build.set (backwards : Bool) (members : CharSet) : Build Unit := do
  if members.spans.all (·.hi < 0x80) then
    -- Every member is one byte, so one table of ranges is enough.
    let _ ← Build.state 0
    let _ ← Build.state members.spans.length
  else
    let ss := members.spans.flatMap byteSequences
    if backwards then
      -- All sequences are branches of one state, and end in another one.
      let _ ← Build.state 0
      let target ← Build.state 0
      (BuildBackwards.sequences target ss).run' { capacity := BuildBackwards.capacity }
    else
      let target ← Build.state 0
      (BuildForwards.sequences target ss).run' { capacity := BuildForwards.capacity }

/-! ### Choices between texts -/

/-- Texts that share their beginnings.  Those that end here come before what is added later; `older`
holds the transitions before each such end, the latest ones first, and `newer` those after all. -/
inductive TextTree where
  | node (older : List (List (Nat × TextTree))) (newer : List (Nat × TextTree))

namespace TextTree

def leaf : TextTree := .node [] []

def isLeaf : TextTree → Bool
  | .node older newer => newer.isEmpty && older.all (·.isEmpty)

/-- Lets a text end here.  A second end where nothing leads on changes nothing. -/
def addEnd (t : TextTree) : TextTree :=
  match t with
  | .node older newer => if t.isLeaf && !older.isEmpty then t else .node (newer :: older) []

/-- Changes what a byte leads to. -/
def update (byte : Nat) (f : TextTree → TextTree) : List (Nat × TextTree) → List (Nat × TextTree)
  | [] => [(byte, f leaf)]
  | (b, t) :: rest => if b = byte then (b, f t) :: rest else (b, t) :: update byte f rest

def insert : List Nat → TextTree → TextTree
  | [], t => t.addEnd
  | byte :: bytes, .node older newer => .node older (update byte (insert bytes) newer)

mutual

def build : TextTree → Build Unit
  | .node older newer => do
    let ends := older.length
    let tables := ends + 1 - ((newer :: older).filter (·.isEmpty)).length
    buildGroups older
    buildGroup newer
    let _ ← Build.state 0
    Build.branches (tables + ends)

def buildGroups : List (List (Nat × TextTree)) → Build Unit
  | [] => return
  | group :: groups => do
    buildGroup group
    buildGroups groups

/-- Lays out the states for transitions, and the state that holds them, which has a table if there
are several. -/
def buildGroup : List (Nat × TextTree) → Build Unit
  | [] => return
  | (_, t) :: rest => do
    let _ ← Build.state (if rest.isEmpty then 0 else rest.length + 1)
    unless t.isLeaf do t.build
    buildTargets rest

def buildTargets : List (Nat × TextTree) → Build Unit
  | [] => return
  | (_, t) :: rest => do
    unless t.isLeaf do t.build
    buildTargets rest

end

end TextTree

namespace Layout

/-- The bytes of texts, if all layouts are texts. -/
def texts? (ls : List Layout) : Option (List (List Nat)) :=
  ls.mapM fun
    | literal codes => some (codes.flatMap encoding)
    | _ => none

mutual

/-- The length of the shortest text that a layout may match, if there is one. -/
def leastLength? : Layout → Option Nat
  | empty | assert _ => some 0
  | literal codes => some codes.length
  | set members => if members.spans.isEmpty then none else some 1
  | capture _ body => body.leastLength?
  | rounds min _ _ body => body.leastLength?.map (min * ·)
  | concat parts => totalLength? parts
  | choice branches => shortestLength? branches

def totalLength? : List Layout → Option Nat
  | [] => some 0
  | l :: ls => do return (← l.leastLength?) + (← totalLength? ls)

def shortestLength? : List Layout → Option Nat
  | [] => none
  | [l] => l.leastLength?
  | l :: ls => do return min (← l.leastLength?) (← shortestLength? ls)

end

/-! ### All expressions -/

/-- Repeats a step.  `joined` says that what was laid out before ends with a state with branches,
one of which leads on; the step says whether what it lays out ends so. -/
def repeatStep (step : Build Bool) : Nat → Bool → Build Bool
  | 0, joined => return joined
  | count + 1, joined => do
    if joined then Build.branches 1
    repeatStep step count (← step)

def exactRounds (step : Build Bool) (count : Nat) : Build Bool := do
  if count = 0 then
    let _ ← Build.state 0
    return false
  else repeatStep step count false

/-- Lays out rounds that need not take place, each of which begins with a state with branches. -/
def optionalRounds (step : Build Bool) : Nat → Bool → Build Bool
  | 0, joined => return joined
  | count + 1, joined => do
    let _ ← Build.state 0
    let ended ← step
    Build.branches (2 + joined.toNat)
    optionalRounds step count ended

/-- Lays out a repetition, given the step that lays out one round and whether a round has to read
something. -/
def roundsStep (step : Build Bool) (reads : Bool) (min : Nat) (max : Option Nat) : Build Bool := do
  match min, max with
  | 0, some 1 =>
    -- One state to take the round or to leave it out, and one where both ways meet.
    let _ ← Build.state 0
    let ended ← step
    let _ ← Build.state 0
    Build.branches (2 + ended.toNat)
    return false
  | 0, none =>
    if reads then
      -- The end of a round leads back to the state that begins it.
      let _ ← Build.state 0
      let ended ← step
      Build.branches (1 + ended.toNat)
      return true
    else
      -- Rounds that may read nothing are laid out as one or more of them, which can be left out.
      let ended ← step
      let _ ← Build.state 0
      let _ ← Build.state 0
      let _ ← Build.state 0
      Build.branches (4 + ended.toNat)
      return false
  | least + 1, none =>
    -- The last of the rounds that are needed is the one that can be taken again.
    let joined ← repeatStep step least false
    if joined then Build.branches 1
    let ended ← step
    let _ ← Build.state 0
    Build.branches (1 + ended.toNat)
    return true
  | least, some most =>
    let joined ← exactRounds step least
    if most ≤ least then return joined
    else
      let _ ← Build.state 0
      let ended ← optionalRounds step (most - least) joined
      Build.branches ended.toNat
      return false

mutual

/-- Lays out an automaton for a layout, and says whether it ends with a state with branches. -/
def build (backwards : Bool) : Layout → Build Bool
  | empty | assert _ => do
    let _ ← Build.state 0
    return false
  | literal codes => do
    Build.grow (codes.flatMap encoding).length 0
    return false
  | set members => do
    Build.set backwards members
    return false
  | capture _ body => do
    -- Backwards no marks are recorded.
    if backwards then body.build backwards
    else
      let _ ← Build.state 0
      let ended ← body.build backwards
      let _ ← Build.state 0
      Build.branches ended.toNat
      return false
  | rounds min max _ body =>
    roundsStep (body.build backwards) (body.leastLength?.any (0 < ·)) min max
  | concat parts => if backwards then buildPartsBackwards parts else buildParts false parts
  | choice branches =>
    match texts? branches with
    | some texts => do
      let read := if backwards then texts.map List.reverse else texts
      let _ ← Build.state 0
      (read.foldl (fun t text => t.insert text) TextTree.leaf).build
      return false
    | none => do
      buildBranches backwards 0 branches
      return false

/-- Lays out parts one after the other; `joined` says that what was laid out before ends with a
state with branches. -/
def buildParts (joined : Bool) : List Layout → Build Bool
  | [] => return joined
  | l :: ls => do
    if joined then Build.branches 1
    buildParts (← l.build false) ls

/-- Lays out parts one before the other, the last one first. -/
def buildPartsBackwards : List Layout → Build Bool
  | [] => return false
  | l :: ls => do
    let joined ← buildPartsBackwards ls
    if joined then Build.branches 1
    l.build true

/-- Lays out branches of which some have been laid out before.  The state that they start from and
the one that they end in come after the first two of them. -/
def buildBranches (backwards : Bool) (before : Nat) : List Layout → Build Unit
  | [] => return
  | l :: ls => do
    let ended ← l.build backwards
    if before = 1 then
      let _ ← Build.state 0
      let _ ← Build.state 0
    Build.branches (1 + ended.toNat)
    buildBranches backwards (before + 1) ls

end

mutual

/-- Whether an assertion has to hold where a layout begins to match. -/
def beginsWith (a : Assertion) : Layout → Bool
  | assert b => b = a
  | capture _ body => body.beginsWith a
  | rounds min _ _ body => 0 < min && body.beginsWith a
  | concat parts => someBeginsWith a parts
  | choice branches => allBeginWith a branches
  | _ => false

def someBeginsWith (a : Assertion) : List Layout → Bool
  | [] => false
  | l :: ls => l.beginsWith a || (l.readsNothing && someBeginsWith a ls)

def allBeginWith (a : Assertion) : List Layout → Bool
  | [] => true
  | l :: ls => l.beginsWith a && allBeginWith a ls

end

mutual

/-- Whether an assertion has to hold where a match of a layout ends. -/
def endsWith (a : Assertion) : Layout → Bool
  | assert b => b = a
  | capture _ body => body.endsWith a
  | rounds min _ _ body => 0 < min && body.endsWith a
  | concat parts => someEndsWith a parts
  | choice branches => allEndWith a branches
  | _ => false

def someEndsWith (a : Assertion) : List Layout → Bool
  | [] => false
  | l :: ls => someEndsWith a ls || (allReadNothing ls && l.endsWith a)

def allEndWith (a : Assertion) : List Layout → Bool
  | [] => true
  | l :: ls => l.endsWith a && allEndWith a ls

end

/-- Lays out the automaton for an expression: the states that skip what comes before a match, unless
a match begins where the text does; then the marks around the match, which are left out backwards;
and the state that a match ends in. -/
def automaton (backwards : Bool) (l : Layout) : Build Unit := do
  let isAnchored := if backwards then l.endsWith .textEnd else l.beginsWith .textStart
  if isAnchored then
    let _ ← Build.state 0
  else
    let _ ← Build.state 0
    let _ ← Build.state 0
    let _ ← Build.state 1
    Build.branches 2
  if backwards then
    let ended ← l.build true
    Build.branches ended.toNat
  else
    let _ ← Build.state 0
    let ended ← l.build false
    let _ ← Build.state 0
    Build.branches ended.toNat
  let _ ← Build.state 0

/-- How many texts a choice has to be between to be searched for without an automaton. -/
def textLimit : Nat := 3000

/-- Whether a layout is a choice between so many texts that no automaton is made. -/
def isTextChoice : Layout → Bool
  | choice branches => textLimit ≤ branches.length && (texts? branches).isSome
  | _ => false

/-- Whether the automata for an expression keep to the limit. -/
def fits (l : Layout) : Bool :=
  l.isTextChoice || ((l.automaton false).run {}).isSome && ((l.automaton true).run {}).isSome

end Layout

end Regex

end Clausal
