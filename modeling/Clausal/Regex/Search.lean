import Clausal.Regex.Bucket
import Clausal.Regex.Matching

/-!
# Searching a text

`Regex.find?` looks for the leftmost match of an expression and, of the matches that begin there,
for the one that the expression prefers; it returns the recorded marks.  The search reads each
character once.  It carries a list of threads, the most preferred one first; each is what remains to
be matched of the expression, and two threads with the same remainder are one.
-/

namespace Clausal

namespace Regex

/-- What an expression can do at a place: match the empty text, or read a character of a set and go
on with a remainder.  Both carry the marks recorded on the way, the latest one first. -/
inductive Move where
  /-- The expression is done. -/
  | accept (marks : Marks)
  /-- A character of the set is read, and the remainder is to be matched after it. -/
  | read (set : CharSet) (rest : Regex) (marks : Marks)

namespace Move

/-- A move that comes after marks have been recorded. -/
def after (earlier : Marks) : Move → Move
  | accept m => accept (m ++ earlier)
  | read set rest m => read set rest (m ++ earlier)

/-- Whether a move is done without reading. -/
def isAccept : Move → Bool
  | accept _ => true
  | read .. => false

end Move

/-- The moves of a list without all that are done except the first one. -/
def keepFirstAccept : List Move → List Move
  | [] => []
  | .accept m :: rest => .accept m :: rest.filter (!·.isAccept)
  | .read set r m :: rest => .read set r m :: keepFirstAccept rest

/-- A remainder followed by an expression. -/
def andThen (rest next : Regex) : Regex :=
  if rest = .empty then next else .seq rest next

/-- The moves of the first list, those that are done going on with the moves of the second one. -/
def chain (first : List Move) (next : Regex) (second : List Move) : List Move :=
  first.flatMap fun
    | .accept m => if m.isEmpty then second else second.map (·.after m)
    | .read set rest m => [.read set (rest.andThen next) m]

/-- The moves of a repetition, given those of its body at the same place.  A round of the body that
reads nothing counts towards the least number of rounds and is of no use after that. -/
def repeatMoves (body : Regex) (greedy : Bool) (moves : List Move) :
    Nat → Option Nat → List Move
  | 0, some 0 => [.accept []]
  | 0, max =>
    let again := moves.filterMap fun
      | .accept _ => none
      | .read set rest m =>
        some (.read set (rest.andThen (.repeated 0 (max.map (· - 1)) greedy body)) m)
    if greedy then again ++ [.accept []] else .accept [] :: again
  | _ + 1, some 0 => []
  | min + 1, max =>
    let fewer := max.map (· - 1)
    chain moves (.repeated min fewer greedy body)
      (if moves.any Move.isAccept then repeatMoves body greedy moves min fewer else [])

/-- The moves of an expression at a place, the preferred ones first; at most one of them is done. -/
def moves (p : Place) : Regex → List Move
  | .empty => [.accept []]
  | .chars set => [.read set .empty []]
  | .assert a => if a.holdsAt p then [.accept []] else []
  | .mark slot => [.accept [(slot, p.offset)]]
  | .seq r s =>
    let first := moves p r
    chain first s (if first.any Move.isAccept then moves p s else [])
  | .alt r s => keepFirstAccept (moves p r ++ moves p s)
  | .repeated min max greedy r => repeatMoves r greedy (moves p r) min max

/-- What remains to be matched, and the marks recorded so far. -/
structure Thread where
  rest : Regex
  /-- The marks, the latest one first. -/
  marks : Marks

/-- A thread that waits for a character of a set. -/
structure Waiting where
  /-- The characters that it can go on with. -/
  set : CharSet
  /-- The thread after such a character. -/
  thread : Thread

/-- The threads that wait for a character at a place, up to the first one that is done there, and
the marks of that one. -/
def advance (p : Place) : List Thread → List Waiting × Option Marks
  | [] => ([], none)
  | t :: ts =>
    let here := (moves p t.rest).map (·.after t.marks)
    let waiting (ms : List Move) : List Waiting := ms.filterMap fun
      | .accept _ => none
      | .read set rest m => some ⟨set, ⟨rest, m⟩⟩
    match here.find? Move.isAccept with
    | some (.accept m) => (waiting (here.takeWhile (!·.isAccept)), some m)
    | _ =>
      let (others, done) := advance p ts
      (waiting here ++ others, done)

/-- The threads that go on after a character; of those with one remainder the first one stays.
`seen` holds the remainders of the threads that have been taken. -/
def resume (c : Char) (seen : Buckets) : List Waiting → List Thread
  | [] => []
  | w :: ws =>
    if w.set.contains c && !seen.contains w.thread.rest then
      w.thread :: resume c (seen.insert w.thread.rest) ws
    else resume c seen ws

/-- Searches from a place on.  `threads` are those that have reached the place, and `found` holds
the marks of the best match so far: while there is none, a match may also begin at the place. -/
def scan (r : Regex) (threads : List Thread) (found : Option Marks) (before : List Char) :
    List Char → Option Marks
  | [] =>
    let all := if found.isSome then threads else threads ++ [⟨r, []⟩]
    (advance ⟨before, []⟩ all).2 <|> found
  | c :: rest =>
    let all := if found.isSome then threads else threads ++ [⟨r, []⟩]
    let (waiting, done) := advance ⟨before, c :: rest⟩ all
    let best := done <|> found
    if waiting.isEmpty && best.isSome then best
    else scan r (resume c .empty waiting) best (c :: before) rest

/-- The marks of the leftmost match in a text, if there is a match. -/
def find? (r : Regex) (text : List Char) : Option Marks :=
  scan r [] none [] text

/-- Two expressions one after the other; the empty text is left out. -/
def join (r s : Regex) : Regex :=
  if r = .empty then s else if s = .empty then r else .seq r s

/-- An expression without its marks. -/
def unmarked : Regex → Regex
  | .empty => .empty
  | .chars set => .chars set
  | .assert a => .assert a
  | .mark _ => .empty
  | .seq r s => join r.unmarked s.unmarked
  | .alt r s => .alt r.unmarked s.unmarked
  | .repeated min max greedy r => .repeated min max greedy r.unmarked

/-- Whether an expression matches some part of a text.  No marks are recorded, as none are asked
for. -/
def isMatch (r : Regex) (text : List Char) : Bool :=
  (r.unmarked.find? text).isSome

/-- The part of a text between the marks of a group, if both were recorded. -/
def captured (text : List Char) (marks : Marks) (group : Nat) : Option (List Char) :=
  match marks.lookup (openSlot group), marks.lookup (closeSlot group) with
  | some i, some j => some ((text.drop i).take (j - i))
  | _, _ => none

end Regex

end Clausal
