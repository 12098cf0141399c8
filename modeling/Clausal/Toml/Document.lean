import Clausal.Toml.Basic

/-!
# Building a document

A document is built from its lines: headers open tables and elements of arrays of tables, and the
lines after a header put values into what it opened.  A `Node` remembers how a table came about,
since that decides what later lines may add to it.
-/

namespace Clausal

namespace Toml

/-- How a table came about. -/
inductive Origin where
  /-- By a header of its own, or as the root. -/
  | header
  /-- By a header of a table inside it. -/
  | implied
  /-- By a key with dots. -/
  | dotted
deriving DecidableEq

/-- What is under a key while a document is being built. -/
inductive Node where
  /-- A finished value. -/
  | value (v : Value)
  /-- A table that lines can still add to. -/
  | table (origin : Origin) (entries : List (String × Node))
  /-- An array of tables, the last one first. -/
  | tables (elements : List (List (String × Node)))

abbrev Entries := List (String × Node)

namespace Node

mutual

def toValue : Node → Value
  | value v => v
  | table _ entries => .table (entryValues entries)
  | tables elements => .array (elementValues elements [])

/-- The values of entries. -/
def entryValues : List (String × Node) → List (String × Value)
  | [] => []
  | (k, n) :: rest => (k, toValue n) :: entryValues rest

/-- The tables of elements in front of others; the elements come last one first. -/
def elementValues : List (List (String × Node)) → List Value → List Value
  | [], done => done
  | e :: rest, done => elementValues rest (.table (entryValues e) :: done)

end

end Node

namespace Entries

/-- Replaces what is under a key, or adds it at the end. -/
def put (key : String) (n : Node) : Entries → Entries
  | [] => [(key, n)]
  | (k, m) :: rest => if k = key then (k, n) :: rest else (k, m) :: put key n rest

/-- Goes along keys to a table and changes its entries.  Tables that are missing on the way come
about; in an array of tables the way leads through its last element.  Along the dots of a key the
way does not lead through tables that have a header. -/
def change (dots : Bool) (update : Origin → Entries → Option Entries) :
    List String → Origin → Entries → Option Entries
  | [], origin, entries => update origin entries
  | key :: rest, _, entries => do
    match entries.lookup key with
    | none =>
      let origin := if dots then Origin.dotted else Origin.implied
      return entries ++ [(key, .table origin (← change dots update rest origin []))]
    | some (.value _) => none
    | some (.tables []) => none
    | some (.tables (last :: others)) =>
      let changed ← change dots update rest .header last
      return put key (.tables (changed :: others)) entries
    | some (.table origin inner) =>
      if dots && origin = .header then none
      else return put key (.table origin (← change dots update rest origin inner)) entries

/-- Puts a value under a key that has none; a table that comes about by dots takes values by dots
only, and other tables take none by dots. -/
def addValue (byDots : Bool) (key : String) (v : Value) (origin : Origin) (entries : Entries) :
    Option Entries :=
  if (origin = .dotted) != byDots then none
  else if (entries.lookup key).isSome then none
  else some (entries ++ [(key, .value v)])

/-- Puts a value under a key, which is given by its dotted parts. -/
def addKey (path : List String) (key : String) (v : Value) (origin : Origin) (entries : Entries) :
    Option Entries :=
  change true (addValue (!path.isEmpty) key v) path origin entries

def openTable (key : String) (_ : Origin) (entries : Entries) : Option Entries :=
  match entries.lookup key with
  | none => some (entries ++ [(key, .table .header [])])
  | some (.table .implied inner) => some (put key (.table .header inner) entries)
  | some _ => none

/-- Opens one more element of an array of tables by a header. -/
def openElement (key : String) (_ : Origin) (entries : Entries) : Option Entries :=
  match entries.lookup key with
  | none => some (entries ++ [(key, .tables [[]])])
  | some (.tables elements) => some (put key (.tables ([] :: elements)) entries)
  | some _ => none

end Entries

/-- A document up to some line. -/
structure Document where
  root : Entries
  /-- The keys of the table that the last header opened. -/
  current : List String

namespace Document

def empty : Document := ⟨[], []⟩

/-- Splits the last part off a key. -/
def splitLast : List String → Option (List String × String)
  | [] => none
  | [k] => some ([], k)
  | k :: ks => (splitLast ks).map fun (path, last) => (k :: path, last)

def addLine (d : Document) (key : List String) (v : Value) : Option Document := do
  let (path, last) ← splitLast key
  let root ← Entries.change false (Entries.addKey path last v) d.current .header d.root
  return { d with root }

def addHeader (d : Document) (element : Bool) (key : List String) : Option Document := do
  let (path, last) ← splitLast key
  let step := if element then Entries.openElement last else Entries.openTable last
  let root ← Entries.change false step path .header d.root
  return ⟨root, key⟩

def toEntries (d : Document) : List (String × Value) :=
  Node.entryValues d.root

end Document

def tableOfKeys (pairs : List (List String × Value)) : Option Value := do
  let entries ← pairs.foldlM (fun (entries : Entries) (key, v) => do
    let (path, last) ← Document.splitLast key
    Entries.addKey path last v .header entries) []
  return .table (Node.entryValues entries)

end Toml

end Clausal
