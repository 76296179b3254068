import NativeThunks.Grammar
import NativeThunks.Symbols

/-! The configuration of the generator. Every setting has a default; the two that are spliced into
generated code are checked before any use. -/
namespace NativeThunks

/-- The calling convention of native entry points. -/
inductive CallingConvention where
  | c
  | system
deriving DecidableEq, Repr

namespace CallingConvention

/-- The string of the convention in a function type. -/
def text : CallingConvention → String
  | .c => "C"
  | .system => "system"

/-- The word for the convention in documents. -/
def word : CallingConvention → String
  | .c => "c"
  | .system => "system"

def words : List (String × CallingConvention) :=
  [.c, .system].map fun convention => (convention.word, convention)

end CallingConvention

/-- The settings of the generator. -/
structure Config where
  /-- The path by which generated code reaches the run-time pieces. -/
  runtimePath : String := "::bridgegen_runtime"
  convention : CallingConvention := .c
  /-- The receiver's name for members that do not give one. -/
  receiverName : String := defaultReceiver
  /-- Whether scalar arguments travel in wrapper structures. -/
  wrapScalars : Bool := true
  /-- Whether a unit starts with a comment about its origin. -/
  emitHeader : Bool := true
deriving DecidableEq, Repr

/-- A setting whose value cannot be used. -/
inductive InvalidSetting where
  | runtimePath (value : String)
  | receiverName (value : String)
deriving DecidableEq, Repr

namespace InvalidSetting

/-- The name of the setting in documents. -/
def field : InvalidSetting → String
  | .runtimePath _ => "runtime_crate"
  | .receiverName _ => "receiver_name"

/-- Why the value cannot be used. -/
def reason : InvalidSetting → String
  | .runtimePath value => "'" ++ value ++ "' is not a Rust path"
  | .receiverName value => "'" ++ value ++ "' is not a Rust identifier"

def message (invalid : InvalidSetting) : String :=
  "Invalid value for '" ++ invalid.field ++ "': " ++ invalid.reason

end InvalidSetting

/-- The first setting that cannot be used. The path is looked at before the name. -/
def Config.invalid? (config : Config) : Option InvalidSetting :=
  if !Grammar.isPath config.runtimePath then some (.runtimePath config.runtimePath)
  else if !Grammar.isIdentifier config.receiverName then some (.receiverName config.receiverName)
  else none

/-- Whether every setting can be used. -/
def Config.isValid (config : Config) : Bool := config.invalid?.isNone

end NativeThunks
