import NativeThunks.Command

/-! The command line: flags for the amount of output, a command, and the command's options. An
option has a long name with two dashes or a letter with one, is given at most once, and takes its
value from the same argument or from the next one. -/
namespace NativeThunks.CommandLine
open Files

/-- What is asked for. -/
inductive Request where
  | generate (input output : String) (config : Option String) (allowDiagnostics : Bool)
  | check (input : String) (config : Option String)
  | symbols (input : String) (config : Option String) (json : Bool)
  | initConfig (output : Option String)
deriving DecidableEq, Repr

/-- What a command line comes to without a request. -/
inductive Refusal where
  /-- Help is asked for. -/
  | help
  /-- The arguments do not fit. -/
  | usage
deriving DecidableEq, Repr

structure OptionSpec where
  long : String
  short : Option Char := none
  /-- Whether the option has a value. -/
  valued : Bool := true
deriving DecidableEq, Repr

/-- Options that have been given, with their values; a flag has the empty one. -/
abbrev Given := List (String × String)

/-- An argument that is more than a lone dash and begins with one. -/
def looksLikeOption (argument : String) : Bool :=
  match argument.toList with
  | '-' :: _ :: _ => true
  | _ => false

/-- Adds an option that has not been given, with a value that is not empty. -/
def give (given : Given) (option : OptionSpec) (value : String) : Except Refusal Given :=
  if given.any (·.1 == option.long) then .error .usage
  else if option.valued && value.isEmpty then .error .usage
  else .ok (given ++ [(option.long, value)])

/-- Adds an option whose value, if it has one, is the next argument. Answers the arguments that are
left. -/
def giveNext (given : Given) (option : OptionSpec) (rest : List String) :
    Except Refusal (Given × List String) :=
  if option.valued then
    match rest with
    | value :: rest =>
      if looksLikeOption value then .error .usage
      else (give given option value).map (·, rest)
    | [] => .error .usage
  else (give given option "").map (·, rest)

/-- Splits a long option at its first equals sign. -/
def splitValue (name : List Char) : String × Option String :=
  let value := name.dropWhile (· != '=')
  (String.ofList (name.takeWhile (· != '=')),
    if value.isEmpty then none else some (String.ofList value.tail))

/-- A long option, behind its dashes. -/
def longOption (options : List OptionSpec) (name : List Char) (rest : List String)
    (given : Given) : Except Refusal (Given × List String) :=
  let (name, value) := splitValue name
  match options.find? (·.long == name), value with
  | some option, none => giveNext given option rest
  | some option, some value =>
    if option.valued then (give given option value).map (·, rest) else .error .usage
  | none, none => .error (if name = "help" then .help else .usage)
  | none, some _ => .error .usage

/-- Short options in one argument, behind its dash. The value of an option is what is left of the
argument, without an equals sign at its start. -/
def shortOptions (options : List OptionSpec) (rest : List String) :
    List Char → Given → Except Refusal (Given × List String)
  | [], given => .ok (given, rest)
  | letter :: letters, given =>
    match options.find? (·.short == some letter) with
    | none => .error (if letter = 'h' then .help else .usage)
    | some option =>
      if option.valued then
        match letters with
        | [] => giveNext given option rest
        | '=' :: value => (give given option (String.ofList value)).map (·, rest)
        | value => (give given option (String.ofList value)).map (·, rest)
      else do
        let given ← give given option ""
        shortOptions options rest letters given

/-- One option at the start of the arguments, if there is one. -/
def option? (options : List OptionSpec) (argument : String) (rest : List String) (given : Given) :
    Option (Except Refusal (Given × List String)) :=
  match argument.toList with
  | ['-'] => none
  | '-' :: '-' :: name => some (longOption options name rest given)
  | '-' :: letters => some (shortOptions options rest letters given)
  | _ => none

/-- The options of a command, which takes nothing else. Behind two lone dashes nothing may follow.
Fuel bounds the number of options. -/
def readOptions (options : List OptionSpec) : Nat → List String → Given → Except Refusal Given
  | 0, _, _ => .error .usage
  | _, [], given => .ok given
  | fuel + 1, argument :: rest, given =>
    if argument = "--" then if rest.isEmpty then .ok given else .error .usage
    else
      match option? options argument rest given with
      | none => .error .usage
      | some result => do
        let (given, rest) ← result
        readOptions options fuel rest given

/-- The flags before the command. Answers the command and what follows it. -/
def readFlags (options : List OptionSpec) : Nat → List String → Given →
    Except Refusal (String × List String)
  | 0, _, _ => .error .usage
  | _, [], _ => .error .usage
  | fuel + 1, argument :: rest, given =>
    match option? options argument rest given with
    | none => .ok (argument, rest)
    | some result => do
      let (given, rest) ← result
      readFlags options fuel rest given

/-- The flags before a command: how much is reported while it runs. -/
def flags : List OptionSpec := [
  { long := "verbose", short := some 'v', valued := false },
  { long := "debug", short := some 'd', valued := false }]

/-- The path of the declarations. -/
def inputOption : OptionSpec := { long := "input", short := some 'i' }

/-- The path of what is written. -/
def outputOption : OptionSpec := { long := "output", short := some 'o' }

def configOption : OptionSpec := { long := "config", short := some 'c' }

/-- Diagnostics are no failure. -/
def allowOption : OptionSpec := { long := "allow-diagnostics", valued := false }

/-- Symbols are written as a document. -/
def jsonOption : OptionSpec := { long := "json", valued := false }

/-- The variable of the environment that names a configuration. -/
def configVariable : String := "BRIDGEGEN_CONFIG"

def commands : List (String × List OptionSpec) := [
  ("generate", [inputOption, outputOption, configOption, allowOption]),
  ("check", [inputOption, configOption]),
  ("symbols", [inputOption, configOption, jsonOption]),
  ("init-config", [outputOption])]

/-- The value of an option that must be given. -/
def required (given : Given) (option : OptionSpec) : Except Refusal String :=
  match given.lookup option.long with
  | some value => .ok value
  | none => .error .usage

/-- The configuration that is named by an option, or else by the environment. -/
def namedConfig (given : Given) (environment : Option String) : Except Refusal (Option String) :=
  match given.lookup configOption.long, environment with
  | some value, _ => .ok (some value)
  | none, some "" => .error .usage
  | none, some value => .ok (some value)
  | none, none => .ok none

/-- The request of a command with its options. -/
def requestOf (command : String) (given : Given) (environment : Option String) :
    Except Refusal Request := do
  match command with
  | "generate" =>
    let config ← namedConfig given environment
    return .generate (← required given inputOption) (← required given outputOption) config
      (given.lookup allowOption.long).isSome
  | "check" =>
    let config ← namedConfig given environment
    return .check (← required given inputOption) config
  | "symbols" =>
    let config ← namedConfig given environment
    return .symbols (← required given inputOption) config (given.lookup jsonOption.long).isSome
  | "init-config" => return .initConfig (given.lookup outputOption.long)
  | _ => .error .usage

/-- The request of a command line, with the configuration that the environment names. -/
def parse (arguments : List String) (environment : Option String) : Except Refusal Request := do
  let (command, rest) ← readFlags flags (arguments.length + 1) arguments []
  match commands.find? (·.1 == command) with
  | some (_, options) =>
    let given ← readOptions options (rest.length + 1) rest []
    requestOf command given environment
  | none =>
    if command = "help" ∧ rest.all (fun name => commands.any (·.1 == name)) then .error .help
    else .error .usage

/-- What a run of the program shows. -/
structure Result where
  exit : UInt8 := 0
  output : String := ""
  errors : String := ""
deriving DecidableEq, Repr

/-- How the program is called. -/
def usage : String := "Usage: bridgegen [OPTIONS] <COMMAND>\n"

/-- The result of a request: the text that it prints, unless that is a panic, or the report of its
failure. -/
def finish {α : Type} (print : α → Except Panic String) : Except CommandError α → Result
  | .ok value =>
    match print value with
    | .ok text => { output := text }
    | .error panic => { exit := 101, errors := panic.message ++ "\n" }
  | .error error => { exit := 1, errors := error.report }

def runRequest {m : Type → Type} [Monad m] (files : FileAccess m) : Request → m Result
  | .generate input output config allowDiagnostics => do
    let summary ← (Command.generate files input output config allowDiagnostics).run
    return finish (fun _ => .ok "") summary
  | .check input config => do
    return finish (fun _ => .ok "") (← (Command.check files input config).run)
  | .symbols input config json => do
    let print (rows : List SymbolRow) : Except Panic String :=
      (Command.formatSymbols rows json).map (· ++ "\n")
    return finish print (← (Command.symbols files input config).run)
  | .initConfig none => do return finish .ok (← (Command.initConfig files none).run)
  | .initConfig (some path) => do
    return finish (fun _ => .ok "") (← (Command.initConfig files (some path)).run)

def run {m : Type → Type} [Monad m] (files : FileAccess m) (arguments : List String)
    (environment : Option String) : m Result :=
  match parse arguments environment with
  | .ok request => runRequest files request
  | .error .help => return { output := usage }
  | .error .usage => return { exit := 2, errors := usage }

end NativeThunks.CommandLine
