import NativeThunks.Config
import NativeThunks.Json.Decode
import NativeThunks.Json.Value
import NativeThunks.Toml.Quotation
import NativeThunks.Toml.Reader

/-! Configurations as documents: JSON objects, and TOML files as users write them. Any setting may
be left out; unknown ones are refused. -/
namespace NativeThunks
open Json

namespace Config

/-- The names of the settings, in the order in which they are written. -/
def settings : List String :=
  ["runtime_crate", "abi", "receiver_name", "wrap_scalars", "emit_header"]

/-! JSON -/

/-- The settings that have been read. -/
structure Draft where
  runtimePath : Option String := none
  convention : Option CallingConvention := none
  receiverName : Option String := none
  wrapScalars : Option Bool := none
  emitHeader : Option Bool := none

def setting {β : Type} (name : String) (decode : Decoder β) (get : Draft → Option β)
    (put : Draft → β → Draft) : RecordField Draft where
  name := name
  required := false
  isSet draft := (get draft).isSome
  read origin node draft := (decode origin node).map (put draft)

/-- A configuration. -/
def record : Record Draft Config where
  title := "struct GeneratorConfig"
  fields := [
    setting "runtime_crate" Decoder.string (·.runtimePath)
      fun draft value => { draft with runtimePath := some value },
    setting "abi" (Decoder.variant CallingConvention.words) (·.convention)
      fun draft value => { draft with convention := some value },
    setting "receiver_name" Decoder.string (·.receiverName)
      fun draft value => { draft with receiverName := some value },
    setting "wrap_scalars" Decoder.bool (·.wrapScalars)
      fun draft value => { draft with wrapScalars := some value },
    setting "emit_header" Decoder.bool (·.emitHeader)
      fun draft value => { draft with emitHeader := some value }]
  strict := true
  start := {}
  finish draft :=
    let standard : Config := {}
    .ok {
      runtimePath := draft.runtimePath.getD standard.runtimePath
      convention := draft.convention.getD standard.convention
      receiverName := draft.receiverName.getD standard.receiverName
      wrapScalars := draft.wrapScalars.getD standard.wrapScalars
      emitHeader := draft.emitHeader.getD standard.emitHeader }

def toJson (config : Config) : Value :=
  .object [
    ("runtime_crate", .string config.runtimePath),
    ("abi", .string config.convention.word),
    ("receiver_name", .string config.receiverName),
    ("wrap_scalars", .bool config.wrapScalars),
    ("emit_header", .bool config.emitHeader)]

end Config

/-! TOML -/

/-- Why a TOML document is no configuration. -/
inductive TomlFault where
  /-- The text breaks a rule of the format. -/
  | malformed
  /-- A choice is neither a text nor a table with the single choice for a key and nothing in it. -/
  | noChoice
  | data (fault : DataFault)
deriving DecidableEq, Repr

/-- The wording of a fault, where it does not depend on the place in the text. -/
def TomlFault.message? : TomlFault → Option String
  | .malformed | .noChoice => none
  | .data fault => some fault.message

/-- The wording of a number in messages. -/
def Toml.Real.describe : Toml.Real → String
  | .finite below value => "floating point `" ++ Decimal.positional below value ++ "`"
  | .infinite below => "floating point `" ++ (if below then "-inf" else "inf") ++ "`"
  | .undefined => "floating point `NaN`"

/-- The wording of a value in messages. -/
def Toml.Item.describe : Toml.Item → String
  | .string text => "string " ++ Text.quoted text
  | .integer value => "integer `" ++ toString value ++ "`"
  | .real value => value.describe
  | .bool value => "boolean `" ++ (if value then "true" else "false") ++ "`"
  | .array _ | .tables _ => "sequence"
  | .time | .inline _ _ | .table _ _ => "map"

namespace Config

def textSetting : Toml.Item → Except TomlFault String
  | .string text => .ok text
  | item => .error (.data (.invalidType item.describe "a string"))

def boolSetting : Toml.Item → Except TomlFault Bool
  | .bool value => .ok value
  | item => .error (.data (.invalidType item.describe "a boolean"))

/-- The convention of a name. -/
def conventionNamed (name : String) : Except TomlFault CallingConvention :=
  match CallingConvention.words.find? (·.1 == name) with
  | some (_, convention) => .ok convention
  | none => .error (.data (.unknownVariant name (CallingConvention.words.map (·.1))))

/-- Whether a value has nothing in it, as the value behind the name of a choice must. -/
def isVoid : Toml.Item → Bool
  | .array [] | .tables [] | .inline _ [] | .table _ [] => true
  | _ => false

/-- A setting that is a convention, alone or as the only key of a table. -/
def conventionSetting : Toml.Item → Except TomlFault CallingConvention
  | .string name => conventionNamed name
  | .inline _ [(name, item)] | .table _ [(name, item)] => do
    let convention ← conventionNamed name
    if isVoid item then return convention else .error .noChoice
  | _ => .error .noChoice

/-- The configuration with one more setting. -/
def withEntry (config : Config) (name : String) (item : Toml.Item) : Except TomlFault Config :=
  match name with
  | "runtime_crate" => (textSetting item).map fun value => { config with runtimePath := value }
  | "abi" => (conventionSetting item).map fun value => { config with convention := value }
  | "receiver_name" => (textSetting item).map fun value => { config with receiverName := value }
  | "wrap_scalars" => (boolSetting item).map fun value => { config with wrapScalars := value }
  | "emit_header" => (boolSetting item).map fun value => { config with emitHeader := value }
  | _ => .error (.data (.unknownField name settings))

/-- The configuration with all settings of a table, which are met in their order. -/
def withEntries (config : Config) : Toml.Entries → Except TomlFault Config
  | [] => .ok config
  | (name, item) :: rest => do withEntries (← config.withEntry name item) rest

/-- Reads a TOML document without asking whether the settings can be used. -/
def ofTomlUnchecked (text : String) : Except TomlFault Config :=
  match Toml.ofText? text with
  | some entries => withEntries {} entries
  | none => .error .malformed

/-- Why a TOML document gives no usable configuration. -/
inductive TomlError where
  | parse (fault : TomlFault)
  | invalid (setting : InvalidSetting)
deriving DecidableEq, Repr

def ofToml (text : String) : Except TomlError Config := do
  let config ← (ofTomlUnchecked text).mapError .parse
  match config.invalid? with
  | none => return config
  | some setting => .error (.invalid setting)

/-- One line of a document: a setting, its name first. -/
def tomlLine (name value : String) : String := name ++ " = " ++ value ++ "\n"

def boolWord (value : Bool) : String := if value then "true" else "false"

/-- The TOML document of a configuration, with every setting on a line. -/
def toToml (config : Config) : String :=
  tomlLine "runtime_crate" (Toml.quote config.runtimePath) ++
  tomlLine "abi" (Toml.quote config.convention.word) ++
  tomlLine "receiver_name" (Toml.quote config.receiverName) ++
  tomlLine "wrap_scalars" (boolWord config.wrapScalars) ++
  tomlLine "emit_header" (boolWord config.emitHeader)

end Config
end NativeThunks
