/-!
# Arguments of the command line

`Request.ofArguments` reads the arguments of the program.  An option has a long name after two
hyphens and may have a letter after one; its value is attached to it or is the next argument, which
then must not begin with a hyphen unless it is nothing but one.  Letters of options can be written
together.  Options for all commands stand before the command or after it.
-/

namespace Clausal

inductive OutputFormat where
  | text
  | json
deriving DecidableEq

/-- What the program is asked to do. -/
inductive Request where
  /-- To check a value against a rule, with the configuration at a path if one is named. -/
  | check (config : Option String) (rule name : String) (value : Option String)
      (format : OutputFormat)
  | listRules (config : Option String)
  /-- To write a configuration; `force` says that it may replace one. -/
  | writeConfig (force : Bool)
  | help
  | version
deriving DecidableEq

inductive CommandName where
  | check
  | listRules
  | writeConfig
deriving DecidableEq

inductive CommandOption where
  /-- Tells more about what happens. -/
  | verbose
  | config
  | rule
  | name
  | value
  | format
  /-- Lets a configuration be replaced. -/
  | force
  | help
  | version
deriving DecidableEq

namespace CommandOption

def long : CommandOption → String
  | verbose => "verbose"
  | config => "config"
  | rule => "rule"
  | name => "name"
  | value => "value"
  | format => "format"
  | force => "force"
  | help => "help"
  | version => "version"

def letter? : CommandOption → Option Char
  | verbose => some 'v'
  | config => some 'c'
  | rule => some 'r'
  | name => some 'n'
  | value => none
  | format => some 'f'
  | force => none
  | help => some 'h'
  | version => some 'V'

def hasValue : CommandOption → Bool
  | config | rule | name | value | format => true
  | verbose | force | help | version => false

/-- Whether an option can have a certain text as its value. -/
def accepts : CommandOption → String → Bool
  | config, text => text != ""
  | format, text => text = "text" || text = "json"
  | _, _ => true

/-- The options that can come after a command, or before any. -/
def available : Option CommandName → List CommandOption
  | none => [verbose, config, help, version]
  | some .check => [verbose, config, rule, name, value, format, help]
  | some .listRules => [verbose, config, help]
  | some .writeConfig => [verbose, config, force, help]

end CommandOption

def CommandName.ofText? : String → Option CommandName
  | "check" => some .check
  | "list-rules" => some .listRules
  | "init" => some .writeConfig
  | _ => none

/-- The options that were given, each with its value; the latest one comes first. -/
abbrev GivenOptions := List (CommandOption × String)

/-- How far a run of options has been read. -/
inductive OptionRun where
  /-- All options have been read, and there is no other argument. -/
  | done (given : GivenOptions)
  /-- An argument that is no option comes next. -/
  | stopped (given : GivenOptions) (argument : String) (rest : List String)
  /-- The rest does not count, as help or the version is asked for. -/
  | answered (request : Request)
  | invalid

namespace OptionRun

/-- Adds an option with its value; no option is given twice, and every value has to be one that the
option can have. -/
def give? (given : GivenOptions) (o : CommandOption) (value : String) : Option GivenOptions :=
  if given.any (·.1 == o) || !o.accepts value then none else some ((o, value) :: given)

/-- What one argument with letters comes to. -/
inductive Letters where
  /-- The options with their values. -/
  | done (given : GivenOptions)
  /-- The last option needs the next argument for its value. -/
  | waiting (given : GivenOptions) (o : CommandOption)
  /-- Help or the version is asked for. -/
  | answered (request : Request)
  | invalid

/-- Reads letters of options; what follows the letter of an option with a value is that value, after
an equals sign that is left out. -/
def letters (options : List CommandOption) (given : GivenOptions) : List Char → Letters
  | [] => .done given
  | c :: rest =>
    match options.find? fun o => o.letter? == some c with
    | none => .invalid
    | some .help => .answered .help
    | some .version => .answered .version
    | some o =>
      if o.hasValue then
        match rest with
        | [] => .waiting given o
        | _ =>
          let value := if rest.head? = some '=' then rest.tail else rest
          match give? given o (String.ofList value) with
          | some given => .done given
          | none => .invalid
      else
        match give? given o "" with
        | some given => letters options given rest
        | none => .invalid

/-- The name of a long option and the value attached to it. -/
def splitLong (cs : List Char) : String × Option String :=
  let name := String.ofList (cs.takeWhile (· != '='))
  match cs.dropWhile (· != '=') with
  | [] => (name, none)
  | _ :: value => (name, some (String.ofList value))

/-- Whether an argument can be the value of the option before it. -/
def isValue (argument : String) : Bool :=
  argument = "-" || !argument.startsWith "-"

/-- Reads options up to the first argument that is none.  After two hyphens alone there are no more
options. -/
def options (available : List CommandOption) (given : GivenOptions) : List String → OptionRun
  | [] => .done given
  | argument :: rest =>
    if argument = "--" then
      match rest with
      | [] => .done given
      | _ => .invalid
    else
      match argument.toList with
      | '-' :: '-' :: cs =>
        let (name, attached) := splitLong cs
        match available.find? (·.long == name), attached with
        | none, _ => .invalid
        | some .help, none => .answered .help
        | some .version, none => .answered .version
        | some o, some value =>
          if o.hasValue then
            match give? given o value with
            | some given => options available given rest
            | none => .invalid
          else .invalid
        | some o, none =>
          if o.hasValue then
            match rest with
            | value :: rest =>
              if isValue value then
                match give? given o value with
                | some given => options available given rest
                | none => .invalid
              else .invalid
            | [] => .invalid
          else
            match give? given o "" with
            | some given => options available given rest
            | none => .invalid
      | '-' :: c :: cs =>
        match letters available given (c :: cs) with
        | .done given => options available given rest
        | .waiting given o =>
          match rest with
          | value :: rest =>
            if isValue value then
              match give? given o value with
              | some given => options available given rest
              | none => .invalid
            else .invalid
          | [] => .invalid
        | .answered request => .answered request
        | .invalid => .invalid
      | _ => .stopped given argument rest

end OptionRun

namespace Request

/-- The path of the configuration that the user names. -/
def config? : Request → Option String
  | check config .. => config
  | listRules config => config
  | writeConfig _ | help | version => none

/-- The request of a command with the options before it and after it. -/
def ofCommand (command : CommandName) (before after : GivenOptions) : Option Request :=
  let config := match after.lookup .config with
    | some path => some path
    | none => before.lookup .config
  match command with
  | .check =>
    (after.lookup .rule).map fun rule =>
      .check config rule ((after.lookup .name).getD "value") (after.lookup .value)
        (if after.lookup .format = some "json" then .json else .text)
  | .listRules => some (.listRules config)
  | .writeConfig => some (.writeConfig (after.lookup .force).isSome)

/-- The request for help on the program, or on one command; to ask for help is a command, too. -/
def ofHelpArguments : List String → Option Request
  | [] => some .help
  | [name] => if name = "help" || (CommandName.ofText? name).isSome then some .help else none
  | _ => none

/-- Reads the arguments; there is no request if they make no sense. -/
def ofArguments (arguments : List String) : Option Request :=
  match OptionRun.options (CommandOption.available none) [] arguments with
  | .answered request => some request
  | .done _ | .invalid => none
  | .stopped before argument rest =>
    if argument = "help" then ofHelpArguments rest
    else
      match CommandName.ofText? argument with
      | none => none
      | some command =>
        match OptionRun.options (CommandOption.available (some command)) [] rest with
        | .done after => ofCommand command before after
        | .answered request => some request
        | .stopped .. | .invalid => none

end Request

end Clausal
