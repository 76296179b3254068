import NativeThunks.Config.Document
import NativeThunks.Files.Access
import NativeThunks.Files.Path
import NativeThunks.Generation

/-! The commands: generate units into a folder, check declarations, list their symbols, and write
the default configuration. They work on files through the operations they are given. -/
namespace NativeThunks
open Files

/-- Why declarations cannot be loaded. -/
inductive LoadFault where
  | io (fault : IoFault)
  | json (fault : Json.Fault)
deriving DecidableEq, Repr

/-- The wording of a fault and of what is behind it, from the outside in. -/
def LoadFault.messages : LoadFault → List String
  | .io fault => ["Failed to read declaration set: " ++ fault.message, fault.message]
  | .json fault => ["Malformed declaration set: " ++ fault.message, fault.message]

/-- Why a configuration cannot be loaded. -/
inductive ConfigFault where
  | io (fault : IoFault)
  | content (fault : Config.TomlError)
deriving DecidableEq, Repr

/-- The wording of a fault and of what is behind it, from the outside in. -/
def ConfigFault.messages : ConfigFault → List String
  | .io fault => ["IO error: " ++ fault.message, fault.message]
  | .content (.parse fault) =>
    let message := fault.message?.getD ""
    ["TOML parse error: " ++ message, message]
  | .content (.invalid setting) => [setting.message]

/-- Why a command fails. -/
inductive CommandError where
  | declarations (path : String) (fault : LoadFault)
  | config (path : String) (fault : ConfigFault)
  | generation (setting : InvalidSetting)
  | createFolder (path : String) (fault : IoFault)
  | writeUnit (path : String) (fault : IoFault)
  /-- Something was left out. -/
  | leftOut (diagnostics : Diagnostics)
  | configExists (path : String)
  | writeConfig (path : String) (fault : IoFault)
deriving DecidableEq, Repr

namespace CommandError

/-- What a failed command was doing, from the outside in. -/
def context : CommandError → List String
  | .declarations path _ => ["Failed to load declarations: " ++ Text.quoted path]
  | .config path _ => ["Failed to load config: " ++ Text.quoted path]
  | .generation setting =>
    ["Binding generation failed", "Configuration error: " ++ setting.message]
  | .createFolder path fault =>
    ["Failed to create output directory: " ++ Text.quoted path, fault.message]
  | .writeUnit path fault => ["Failed to write output: " ++ Text.quoted path, fault.message]
  | .leftOut diagnostics => [diagnostics.failureMessage]
  | .configExists path => ["Refusing to overwrite existing config: " ++ Text.quoted path]
  | .writeConfig path fault => ["Failed to write config: " ++ Text.quoted path, fault.message]

/-- All messages of a failed command, from the outside in. -/
def messages (error : CommandError) : List String :=
  error.context ++
  match error with
  | .declarations _ fault => fault.messages
  | .config _ fault => fault.messages
  | .generation setting => [setting.message]
  | _ => []

/-- A text with blanks at the start of every line but the first. -/
def hanging (width : Nat) (text : String) : String :=
  String.ofList (text.toList.flatMap fun c =>
    if c = '\n' then '\n' :: List.replicate width ' ' else [c])

/-- The lines about causes, numbered from the given number on. -/
def numberedCauses : Nat → List String → String
  | _, [] => ""
  | index, cause :: rest =>
    let number := toString index
    "\n" ++ String.ofList (List.replicate (5 - number.length) ' ') ++ number ++ ": " ++
      hanging 7 cause ++ numberedCauses (index + 1) rest

/-- The report of a failed command. A single cause has no number. -/
def report (error : CommandError) : String :=
  "Error: " ++
  match error.messages with
  | [] => "\n"
  | [message] => message ++ "\n"
  | [message, cause] => message ++ "\n\nCaused by:\n    " ++ hanging 4 cause ++ "\n"
  | message :: causes => message ++ "\n\nCaused by:" ++ numberedCauses 0 causes ++ "\n"

end CommandError

/-- A panic of the program. Of what it reports only the message is kept, without the thread and the place
in the program. -/
structure Panic where
  message : String
deriving DecidableEq, Repr

/-- The configuration that is looked for beside the declarations. -/
def configFileName : String := "bridgegen.toml"

namespace Command
variable {m : Type → Type} [Monad m] (files : FileAccess m)

def loadDeclarations (input : String) : ExceptT CommandError m DeclarationSet := do
  match ← files.read input with
  | .error fault => throw (.declarations input (.io fault))
  | .ok text =>
    match DeclarationSet.ofText text with
    | .ok set => return set
    | .error fault => throw (.declarations input (.json fault))

def loadConfigAt (path : String) : ExceptT CommandError m Config := do
  match ← files.read path with
  | .error fault => throw (.config path (.io fault))
  | .ok text =>
    match Config.ofToml text with
    | .ok config => return config
    | .error fault => throw (.config path (.content fault))

/-- Loads the configuration that is named, else the one beside the input, else the default. -/
def loadConfig (named : Option String) (input : String) : ExceptT CommandError m Config := do
  match named with
  | some path => loadConfigAt files path
  | none =>
    match parent? input with
    | none => return {}
    | some folder =>
      let path := join folder configFileName
      if ← files.isFile path then loadConfigAt files path else return {}

/-- Loads declarations and configuration, and generates. -/
def runGenerator (input : String) (config : Option String) :
    ExceptT CommandError m Generation := do
  let set ← loadDeclarations files input
  let config ← loadConfig files config input
  match Generation.run config set with
  | .ok generation => return generation
  | .error setting => throw (.generation setting)

/-- What the command that generates has done. -/
structure Summary where
  /-- The paths of the files. -/
  written : List String
  members : Nat
  diagnostics : Nat
  /-- The summary of the diagnostics, if there are any. -/
  report : Option String
deriving DecidableEq, Repr

/-- Writes units into a folder. Answers the paths. -/
def writeUnits (folder : String) : List GeneratedUnit → ExceptT CommandError m (List String)
  | [] => return []
  | unit :: rest => do
    let path := join folder unit.fileName
    match ← files.write path unit.source with
    | .error fault => throw (.writeUnit path fault)
    | .ok () => return path :: (← writeUnits folder rest)

/-- Generates units into a folder. All of them are written before any diagnostic counts as a
failure. -/
def generate (input output : String) (config : Option String) (allowDiagnostics : Bool) :
    ExceptT CommandError m Summary := do
  let generation ← runGenerator files input config
  match ← files.createFolders output with
  | .error fault => throw (.createFolder output fault)
  | .ok () =>
    let written ← writeUnits files output generation.units
    let diagnostics := generation.diagnostics
    let summary : Summary := {
      written := written
      members := generation.memberCount
      diagnostics := diagnostics.count
      report := if diagnostics.hasErrors then some diagnostics.summary else none }
    if allowDiagnostics then return summary
    else
      match generation.check with
      | .error diagnostics => throw (.leftOut diagnostics)
      | .ok () => return summary

/-- Generates without writing anything. -/
def check (input : String) (config : Option String) : ExceptT CommandError m Generation := do
  let generation ← runGenerator files input config
  match generation.check with
  | .error diagnostics => throw (.leftOut diagnostics)
  | .ok () => return generation

end Command

/-- One row of the list of symbols. -/
structure SymbolRow where
  container : String
  member : String
  kind : MemberKind
  entryPoint : String
  function : String
deriving DecidableEq, Repr

namespace SymbolRow

/-- The row of a declaration, whether it is legal or not. -/
def ofDeclaration (receiver : String) (decl : Declaration) : SymbolRow :=
  let symbols := MemberSymbols.ofDeclaration decl receiver
  { container := decl.container.path
    member := decl.name
    kind := decl.kind
    entryPoint := symbols.entryPoint
    function := symbols.functionName }

def toJson (row : SymbolRow) : Json.Value :=
  .object [
    ("container", .string row.container),
    ("member", .string row.member),
    ("kind", .string (Document.kindWord row.kind)),
    ("entry_point", .string row.entryPoint),
    ("function", .string row.function)]

/-- The width of the column of entry points, in bytes. -/
def width (rows : List SymbolRow) : Nat :=
  (rows.map (·.entryPoint.utf8ByteSize)).foldl max 0

/-- The greatest width that the formatter takes: it keeps widths in sixteen bits. -/
def widthLimit : Nat := 65535

/-- What the formatter says of a greater width. -/
def widthPanic : Panic := ⟨"Formatting argument out of range"⟩

/-- A text filled up with blanks to so many characters. -/
def padded (width : Nat) (text : String) : String :=
  text ++ String.ofList (List.replicate (width - text.length) ' ')

def line (width : Nat) (row : SymbolRow) : String :=
  padded width row.entryPoint ++ "  " ++ row.container ++ "::" ++ row.function ++ " (" ++
    row.kind.text ++ ")"

/-- The rows as a table, one to a line, where the formatter takes the width of its column. -/
def table (rows : List SymbolRow) : String := "\n".intercalate (rows.map (line (width rows)))

/-- The rows as a table or as a document. -/
def format (rows : List SymbolRow) (json : Bool) : String :=
  if json then (Json.Value.list (rows.map toJson)).render else table rows

end SymbolRow

namespace Command
variable {m : Type → Type} [Monad m] (files : FileAccess m)

def symbols (input : String) (config : Option String) :
    ExceptT CommandError m (List SymbolRow) := do
  let set ← loadDeclarations files input
  let config ← loadConfig files config input
  return set.declarations.map (SymbolRow.ofDeclaration config.receiverName)

/-- Shows symbols. A table is a panic if its column is wider than the formatter allows: all rows are
filled up to the same width, so none of them is shown. -/
def formatSymbols (rows : List SymbolRow) (json : Bool) : Except Panic String :=
  if !json && SymbolRow.widthLimit < SymbolRow.width rows then .error SymbolRow.widthPanic
  else .ok (SymbolRow.format rows json)

/-- The text of the default configuration, written to a new file if a path is given. -/
def initConfig (output : Option String) : ExceptT CommandError m String := do
  let text := Config.toToml {}
  match output with
  | none => return text
  | some path =>
    if ← files.isPresent path then throw (.configExists path)
    else
      match ← files.write path text with
      | .error fault => throw (.writeConfig path fault)
      | .ok () => return text

end Command
end NativeThunks
