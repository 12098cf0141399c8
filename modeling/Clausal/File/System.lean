import Clausal.File.Basic

/-!
# File systems

A `FileSystem` says what is at each absolute path, and what may be done with it.  Paths that users
write are relative to a working directory and may lead through `.` and `..`; `FileSystem.locate`
follows them one name at a time, as every name on the way has to be that of a directory.
-/

namespace Clausal

/-- An absolute path: the names from the root on. -/
abbrev Path := List String

def Path.toText (p : Path) : String :=
  if p.isEmpty then "/" else String.join (p.map ("/" ++ ·))

/-- A path and all directories above it, the path itself first. -/
def Path.ancestors (p : Path) : List Path :=
  (List.range (p.length + 1)).map fun above => p.take (p.length - above)

/-- What is at a path, and what may be done with it. -/
inductive Entry where
  /-- A directory.  There may be a reason why nothing can be made in it. -/
  | folder (refusal : Option FileError)
  /-- A regular file with its text, or the reason why it cannot be read.  There may be a reason why
  it cannot be written. -/
  | regular (contents : Except FileError String) (refusal : Option FileError)
  /-- A pipe or a device, with what reading it gives.  It is no file and keeps no text. -/
  | special (contents : Except FileError String) (refusal : Option FileError)

namespace Entry

/-- A directory where everything may be made. -/
@[match_pattern]
def directory : Entry := .folder none

/-- A regular file that may be written. -/
@[match_pattern]
def file (contents : Except FileError String) : Entry := .regular contents none

/-- What reading an entry gives. -/
def contents : Entry → Except FileError String
  | folder _ => .error .isDirectory
  | regular contents _ => contents
  | special contents _ => contents

/-- Why an entry cannot be written, if there is a reason. -/
def refusal? : Entry → Option FileError
  | folder _ => some .isDirectory
  | regular _ refusal => refusal
  | special _ refusal => refusal

/-- What becomes of an entry that a text is written to.  A regular file keeps its access: one that
could not be read cannot be read afterwards, unless only the encoding of its text was the reason. -/
def rewritten (text : String) : Entry → Entry
  | regular (.ok _) refusal => .regular (.ok text) refusal
  | regular (.error .notText) refusal => .regular (.ok text) refusal
  -- What is written here is never read.
  | e => e

end Entry

/-- What is at each absolute path. -/
structure FileSystem where
  /-- What is at a path, if anything is. -/
  entry? : Path → Option Entry

/-- How a file is referred to. -/
inductive Location where
  | absolute (path : Path)
  /-- By a text, starting from the working directory unless the text begins at the root. -/
  | written (text : String)
deriving DecidableEq

def Location.toText : Location → String
  | absolute path => path.toText
  | written text => text

namespace FileSystem

/-- The names in a written path.  Empty names are left out, but a slash at the end asks for a
directory, as the name `.` does. -/
def names (text : String) : List String :=
  let parts := (text.toList.splitOn '/').map String.ofList
  (parts.dropLast.filter (· != "")) ++ parts.getLast?.toList.map fun last =>
    if last = "" then "." else last

/-- Goes from a directory along names. -/
def walk (fs : FileSystem) (here : Path) : List String → Except FileError Path
  | [] => .ok here
  | name :: rest =>
    match fs.entry? here with
    | none => .error .missing
    | some (.folder _) =>
      if name = "." then walk fs here rest
      else if name = ".." then walk fs here.dropLast rest
      else walk fs (here ++ [name]) rest
    | some _ => .error .notDirectory

/-- All paths that lie on the way along names, whatever is there. -/
def visited (here : Path) : List String → List Path
  | [] => [here]
  | name :: rest =>
    here :: (if name = "." then visited here rest
      else if name = ".." then visited here.dropLast rest
      else visited (here ++ [name]) rest)

/-- Where the way to a written path begins. -/
def startOf (workingDirectory : Path) (text : String) : Path :=
  if text.startsWith "/" then [] else workingDirectory

/-- The absolute path that a location stands for. -/
def locate (fs : FileSystem) (workingDirectory : Path) : Location → Except FileError Path
  | .absolute path => .ok path
  | .written text =>
    if text = "" then .error .missing
    else walk fs (startOf workingDirectory text) (names text)

/-- The paths that have to be known to find what is at a location. -/
def consulted (workingDirectory : Path) : Location → List Path
  | .absolute path => [path]
  | .written text => visited (startOf workingDirectory text) (names text)

def read (fs : FileSystem) (workingDirectory : Path) (l : Location) : Except FileError String :=
  match fs.locate workingDirectory l with
  | .error e => .error e
  | .ok path =>
    match fs.entry? path with
    | none => .error .missing
    | some entry => entry.contents

/-- Whether a regular file is at a location; it need not be one that can be read. -/
def isFile (fs : FileSystem) (workingDirectory : Path) (l : Location) : Bool :=
  match fs.locate workingDirectory l with
  | .error _ => false
  | .ok path => fs.entry? path matches some (.regular _ _)

/-- Why a text cannot be written to a path, if there is a reason.  Where nothing is, a file has to
be made in the directory above. -/
def refusal? (fs : FileSystem) (path : Path) : Option FileError :=
  match fs.entry? path with
  | some entry => entry.refusal?
  | none =>
    match fs.entry? path.dropLast with
    | none => some .missing
    | some (.folder refusal) => refusal
    | some _ => some .notDirectory

/-- Writes a text to a path that does not refuse it.  A new file can be read and written. -/
def write (fs : FileSystem) (path : Path) (text : String) : FileSystem :=
  ⟨fun p =>
    if p = path then
      match fs.entry? path with
      | none => some (.file (.ok text))
      | some entry => some (entry.rewritten text)
    else fs.entry? p⟩

end FileSystem

end Clausal
