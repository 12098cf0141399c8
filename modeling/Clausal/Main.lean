import Clausal.Command.Run

/-!
# The program

`main` looks at the files that a request may ask for, decides what to do by `runArguments`, and
does it.
-/

namespace Clausal

/-- The names in the text of an absolute path. -/
def pathOfText (text : String) : Path :=
  ((text.toList.splitOn '/').map String.ofList).filter (· != "")

/-- The number by which the system says that a path leads to a directory. -/
def directoryCode : UInt32 := 21

/-- What is at a path, as far as reading it tells.  Whether it refuses a text shows only when one is
written. -/
def lookAt (path : Path) : IO (Option Entry) := do
  try
    return some (.file (.ok (← IO.FS.readFile path.toText)))
  catch e =>
    match e with
    | .noFileOrDirectory .. => return none
    | .inappropriateType _ code _ =>
      return if code = directoryCode then some .directory else none
    | _ => return some (.file (.error (.other (toString e))))

/-- The part of the file system that consists of certain paths. -/
def lookAtAll (paths : List Path) : IO FileSystem := do
  let entries ← paths.mapM fun path => return (path, ← lookAt path)
  return ⟨fun path => (entries.lookup path).join⟩

/-- The global directory for configurations of the user. -/
def findGlobalDirectory : IO (Option String) := do
  match ← IO.getEnv "ENFORCE_CONFIG_DIR" with
  | some directory => return some directory
  | none => return (← IO.getEnv "HOME").map (· ++ "/.enforce")

/-- The surroundings of the program, as far as a request needs them. -/
def findSurroundings (r : Request) : IO Surroundings := do
  let workingDirectory := pathOfText (← IO.currentDir).toString
  let globalDirectory ← findGlobalDirectory
  let locations := Surroundings.locations workingDirectory globalDirectory r
  let paths := locations.flatMap (FileSystem.consulted workingDirectory)
  return ⟨← lookAtAll paths.eraseDups, workingDirectory, globalDirectory⟩

/-- Writes what running the program writes.  If that is refused, running fails with the reason. -/
def performWriting (r : RunResult) : IO RunResult := do
  match r.written with
  | none => return r
  | some (path, text) =>
    try
      IO.FS.writeFile path.toText text
      return r
    catch e => return .failure (toString e)

/-- Does what running the program comes to. -/
def perform (r : RunResult) : IO UInt32 := do
  let r ← performWriting r
  IO.print r.output
  match r.error, r.shown with
  | some message, _ => IO.eprintln ("Error: " ++ message)
  | none, some failure => IO.eprintln failure.message
  | none, none => if r.exitCode = 2 && r.output = "" then IO.eprint usage
  return r.exitCode.toUInt32

end Clausal

def main (arguments : List String) : IO UInt32 := do
  match Clausal.Request.ofArguments arguments with
  | none => Clausal.perform .misuse
  | some request =>
    Clausal.perform (Clausal.runRequest (← Clausal.findSurroundings request) request)
