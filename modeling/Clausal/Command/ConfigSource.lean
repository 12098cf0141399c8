import Clausal.File.System

/-!
# Where a configuration comes from

A configuration is the one that the user names; else the one of the project, in the working
directory or the nearest directory above it that has one; else the global one of the user; else
there is none.
-/

namespace Clausal

/-- Where a configuration comes from. -/
inductive ConfigSource where
  /-- The user names it; whether it exists is not asked. -/
  | explicit (location : Location)
  /-- It was found in a directory of the project. -/
  | project (location : Location)
  /-- It was found in the global directory of the user. -/
  | global (location : Location)
  /-- There is none. -/
  | standard
deriving DecidableEq

namespace ConfigSource

def location? : ConfigSource → Option Location
  | explicit l => some l
  | project l => some l
  | global l => some l
  | standard => none

/-- The names of project configurations, the preferred one first. -/
def projectNames : List String := ["enforce.toml", ".enforce.toml"]

/-- The name of the global configuration in its directory. -/
def globalName : String := "config.toml"

/-- The project configurations that a directory may have, the preferred one first. -/
def projectCandidates (directory : Path) : List Location :=
  projectNames.map fun name => .absolute (directory ++ [name])

/-- All project configurations that may apply, the preferred one first: those of nearer directories
come before those of directories above. -/
def allProjectCandidates (start : Path) : List Location :=
  start.ancestors.flatMap projectCandidates

def globalCandidate (directory : String) : Location :=
  let slash := if directory = "" || directory.endsWith "/" then "" else "/"
  .written (directory ++ slash ++ globalName)

/-- Finds the project configuration of the nearest directory. -/
def findProject? (isFile : Location → Bool) (start : Path) : Option Location :=
  start.ancestors.findSome? fun directory => (projectCandidates directory).find? isFile

/-- Finds where the configuration comes from. -/
def resolve (isFile : Location → Bool) (start : Path)
    (explicitPath globalDirectory : Option String) : ConfigSource :=
  match explicitPath with
  | some path => .explicit (.written path)
  | none =>
    match findProject? isFile start with
    | some location => .project location
    | none =>
      match globalDirectory.map globalCandidate with
      | some candidate => if isFile candidate then .global candidate else .standard
      | none => .standard

end ConfigSource

end Clausal
