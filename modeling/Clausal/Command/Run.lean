import Clausal.Command.Arguments
import Clausal.Command.ConfigSource
import Clausal.Command.RuleTable
import Clausal.Command.Template
import Clausal.Json.Reader
import Clausal.Json.Text
import Clausal.Setup

/-!
# Running the program

`runArguments` is what the program does with its arguments in its surroundings: what it writes and
where, and with which code it exits.  Nothing here reads or writes a file; `Surroundings.locations`
lists the files that have to be known.
-/

namespace Clausal

/-- Where the program runs. -/
structure Surroundings where
  files : FileSystem
  workingDirectory : Path
  /-- The global directory for configurations of the user, if there is one. -/
  globalDirectory : Option String

/-- What running the program comes to. -/
structure RunResult where
  exitCode : Nat
  output : String
  error : Option String
  /-- The failure of a check that is shown to people. -/
  shown : Option Failure
  /-- The file that is written, with its text. -/
  written : Option (Path × String)

namespace RunResult

/-- The program has done what it was asked to. -/
def success (output : String) : RunResult :=
  { exitCode := 0, output, error := none, shown := none, written := none }

/-- The program cannot do what it was asked to. -/
def failure (error : String) : RunResult :=
  { exitCode := 1, output := "", error := some error, shown := none, written := none }

/-- The arguments of the program make no sense. -/
def misuse : RunResult :=
  { exitCode := 2, output := "", error := none, shown := none, written := none }

def filesAfter (r : RunResult) (fs : FileSystem) : FileSystem :=
  match r.written with
  | some (path, text) => fs.write path text
  | none => fs

end RunResult

namespace Surroundings

/-- The locations of all that a request may ask for. -/
def locations (workingDirectory : Path) (globalDirectory : Option String) (r : Request) :
    List Location :=
  .absolute workingDirectory :: (r.config?.map .written).toList ++
    ConfigSource.allProjectCandidates workingDirectory ++
    (globalDirectory.map ConfigSource.globalCandidate).toList

def isFile (s : Surroundings) (l : Location) : Bool :=
  s.files.isFile s.workingDirectory l

def configSource (s : Surroundings) (explicitPath : Option String) : ConfigSource :=
  ConfigSource.resolve s.isFile s.workingDirectory explicitPath s.globalDirectory

/-- The validator that a configuration describes, or what is said if there is none. -/
def loadValidator (s : Surroundings) (source : ConfigSource) : Except String Validator :=
  match source.location? with
  | none => .ok Validator.standard
  | some l =>
    (Validator.ofFile l.toText (s.files.read s.workingDirectory l)).mapError fun _ =>
      "Failed to load config: " ++ l.toText

/-- The path of the configuration that the program writes. -/
def initialPath (s : Surroundings) : Path := s.workingDirectory ++ ["enforce.toml"]

end Surroundings

/-- The value that an argument denotes; nothing was supplied if there is no argument. -/
def argumentValue : Option String → Except String Value
  | none => .ok .void
  | some text =>
    match Json.ofText? text with
    | some data => .ok (Value.ofJson data)
    | none => .error ("--value is not valid JSON: " ++ text)

/-- The word for how a check comes out. -/
def Outcome.status : Outcome → String
  | .ok _ => "ok"
  | .error (.validation ..) => "validation"
  | .error (.format ..) => "format"

/-- The code that the program exits with after a check. -/
def Outcome.exitCode : Outcome → Nat
  | .ok _ => 0
  | .error (.validation ..) => 1
  | .error (.format ..) => 2

/-- The result of a check as a JSON object. -/
def Outcome.toJson (o : Outcome) (name rule : String) : String :=
  let message := match o with
    | .ok _ => []
    | .error f => [("message", f.message)]
  Json.objectLines ([("status", o.status), ("name", name), ("rule", rule)] ++ message)

/-- The result of a check for people, if the value passes. -/
def passedLine (name rule : String) : String :=
  "\x1b[32mok\x1b[0m '" ++ name ++ "' is " ++ rule ++ "\n"

/-- Shows how a check comes out. -/
def Outcome.report (o : Outcome) (name rule : String) (format : OutputFormat) : RunResult where
  exitCode := o.exitCode
  output :=
    match format, o with
    | .json, o => o.toJson name rule ++ "\n"
    | .text, .ok _ => passedLine name rule
    | .text, .error _ => ""
  error := none
  shown :=
    match format, o with
    | .text, .error f => some f
    | _, _ => none
  written := none

/-- Checks a value. -/
def runCheck (s : Surroundings) (source : ConfigSource) (rule name : String)
    (value : Option String) (format : OutputFormat) : RunResult :=
  match s.loadValidator source with
  | .error message => .failure message
  | .ok validator =>
    match argumentValue value with
    | .error message => .failure message
    | .ok v => (validator.validate ⟨name, v⟩ rule).report name rule format

def runListRules (s : Surroundings) (source : ConfigSource) : RunResult :=
  match s.loadValidator source with
  | .error message => .failure message
  | .ok validator => .success validator.ruleTable

/-- What is written after a configuration has been made. -/
def configWritten : String :=
  "Created enforce.toml\n\nNext steps:\n  1. Edit enforce.toml to configure rules\n" ++
    "  2. Run: enforce check --rule \"a number, less than 10\" --value 3\n"

/-- What keeps the configuration from being written, if anything does. -/
def Surroundings.obstacle? (s : Surroundings) (force : Bool) : Option String :=
  match s.files.entry? s.initialPath, force with
  | some _, false =>
    some "Configuration file already exists at enforce.toml. Use --force to overwrite."
  | _, _ => (s.files.refusal? s.initialPath).map FileError.message

/-- Writes a configuration to begin with. -/
def runWriteConfig (s : Surroundings) (force : Bool) : RunResult :=
  match s.obstacle? force with
  | some message => .failure message
  | none =>
    { RunResult.success configWritten with written := some (s.initialPath, configTemplate) }

/-- How the program is used. -/
def usage : String :=
  "Check values against English-like rule strings\n\nUsage: enforce [OPTIONS] <COMMAND>\n\n" ++
    "Commands:\n  check       Validate one value against a rule string\n" ++
    "  list-rules  List available rules\n  init        Initialize configuration file\n" ++
    "  help        Print this message or the help of the given subcommand(s)\n\n" ++
    "Options:\n  -v, --verbose          Enable verbose output\n" ++
    "  -c, --config <CONFIG>  Path to configuration file\n" ++
    "  -h, --help             Print help\n  -V, --version          Print version\n"

/-- The name and version of the program. -/
def versionLine : String := "enforce 0.4.2\n"

/-- Does what the program is asked to. -/
def runRequest (s : Surroundings) : Request → RunResult
  | .check config rule name value format =>
    runCheck s (s.configSource config) rule name value format
  | .listRules config => runListRules s (s.configSource config)
  | .writeConfig force => runWriteConfig s force
  | .help => .success usage
  | .version => .success versionLine

/-- Runs the program with arguments. -/
def runArguments (s : Surroundings) (arguments : List String) : RunResult :=
  match Request.ofArguments arguments with
  | none => .misuse
  | some request => runRequest s request

end Clausal
