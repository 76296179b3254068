import NativeThunks.Declaration
import NativeThunks.Layout
import NativeThunks.Naming

/-! How one value crosses the boundary: a parameter or a return value of a member. The shape of its
type selects a strategy; strategy and pass mode then give the native type, the statements before
and after the native call, and the expressions in between. -/
namespace NativeThunks

/-- The native spelling of every opaque pointer. -/
def opaquePointer : String := "*mut ::core::ffi::c_void"

/-- The ways of handing a value over. -/
inductive Strategy where
  /-- The value as it is. -/
  | default
  /-- A truth value as a 32-bit number. -/
  | boolean
  /-- A text as an owned native block. -/
  | stringHandle
  /-- A managed object as its native pointer. -/
  | nativeHandleObject (nullable : Bool)
deriving DecidableEq, Repr

/-- The strategy for a shape. -/
def Strategy.ofShape : Shape → Strategy
  | .boolean => .boolean
  | .stringHandle => .stringHandle
  | .nativeHandleObject nullable => .nativeHandleObject nullable
  | .primitive _ _ | .other => .default

/-- The two places of a value in a signature. -/
inductive Position where
  | parameter
  | result
deriving DecidableEq, Repr

/-- Why a value cannot cross. -/
inductive Violation where
  | cannotPassByRef
  | cannotBeReturned
deriving DecidableEq, Repr

/-- A type in the signature of a native function. -/
structure NativeType where
  text : String
  /-- Scalars can travel in a wrapper structure. -/
  scalar : Bool
deriving DecidableEq, Repr

/-- One value in the signature of a member. -/
structure Crossing where
  type : TypeRef
  mode : PassMode
deriving DecidableEq, Repr

namespace Crossing

def ofParameter (parameter : Parameter) : Crossing := ⟨parameter.type, parameter.mode⟩

/-- The crossing of a return value, which is always by value. -/
def ofReturn (type : TypeRef) : Crossing := ⟨type, .value⟩

/-- The strategy depends on the shape of the type alone. -/
def strategy (crossing : Crossing) : Strategy := Strategy.ofShape crossing.type.shape

/-- Why the value cannot cross in a place, if it cannot. Texts and objects do not cross by
reference, and objects are not returned. -/
def violation? (crossing : Crossing) (position : Position) : Option Violation :=
  match crossing.strategy, position with
  | .default, _ | .boolean, _ => none
  | .stringHandle, _ => if crossing.mode.isByRef then some .cannotPassByRef else none
  | .nativeHandleObject _, .result => some .cannotBeReturned
  | .nativeHandleObject _, .parameter =>
    if crossing.mode.isByRef then some .cannotPassByRef else none

/-- The type of the value in the native signature. References are scalars whatever they refer to. -/
def nativeType (crossing : Crossing) : NativeType :=
  match crossing.strategy with
  | .default =>
    let bare := crossing.type.spelling
    match crossing.mode with
    | .value => ⟨bare, crossing.type.shape.isScalar⟩
    | .ref | .out => ⟨"*mut " ++ bare, true⟩
    | .in => ⟨"*const " ++ bare, true⟩
  | .boolean =>
    match crossing.mode with
    | .value => ⟨"i32", true⟩
    | .ref | .out => ⟨"*mut i32", true⟩
    | .in => ⟨"*const i32", true⟩
  | .stringHandle | .nativeHandleObject _ => ⟨opaquePointer, true⟩

/-- The type of the value in the signature of the generated function. -/
def managedType (crossing : Crossing) : String :=
  let bare :=
    match crossing.type with
    | .nativeObject path false => "&" ++ path
    | .nativeObject path true => "::core::option::Option<&" ++ path ++ ">"
    | type => type.spelling
  match crossing.mode with
  | .value => bare
  | .ref | .out => "&mut " ++ bare
  | .in => "&" ++ bare

/-- The type of the value as the result of the generated function. A text always comes back
owned. -/
def managedReturnType (crossing : Crossing) : String :=
  match crossing.type with
  | .str _ => "::std::string::String"
  | type => type.spelling

/-- Whether the statements before the call open a block that those after it close. -/
def opensScope (crossing : Crossing) : Bool :=
  match crossing.strategy with
  | .default => crossing.mode.isByRef
  | .stringHandle => true
  | .boolean | .nativeHandleObject _ => false

def localEnding (crossing : Crossing) : Option String :=
  match crossing.strategy with
  | .default => if crossing.mode.isByRef then some "_ptr" else none
  | .boolean | .stringHandle => some "_native"
  | .nativeHandleObject _ => some "_handle"

/-- The local that a name gets, if the crossing needs one. -/
def localName? (crossing : Crossing) (name : String) : Option String :=
  crossing.localEnding.map fun ending => "__" ++ Naming.stem name ++ ending

/-- The statements before the call for a parameter of a name, and the expression that the native
function receives. -/
def beforeCall (crossing : Crossing) (name runtime : String) : List Line × String :=
  let bound := (crossing.localName? name).getD name
  let pointer (keyword macroName : String) : List Line × String :=
    ([.opening "\x7b",
      .text ("let " ++ bound ++ ": *" ++ keyword ++ " " ++ crossing.type.spelling ++
        " = ::core::ptr::" ++ macroName ++ "!(*" ++ name ++ ");")], bound)
  let native (binding value : String) : Line :=
    .text (binding ++ bound ++ ": i32 = " ++ runtime ++ "::bool_to_native(" ++ value ++ ");")
  match crossing.strategy with
  | .default =>
    match crossing.mode with
    | .value => ([], name)
    | .ref | .out => pointer "mut" "addr_of_mut"
    | .in => pointer "const" "addr_of"
  | .boolean =>
    match crossing.mode with
    | .value => ([native "let " name], bound)
    | .ref => ([native "let mut " ("*" ++ name)], "::core::ptr::addr_of_mut!(" ++ bound ++ ")")
    | .out => ([.text ("let mut " ++ bound ++ ": i32 = 0;")],
        "::core::ptr::addr_of_mut!(" ++ bound ++ ")")
    | .in => ([native "let " ("*" ++ name)], "::core::ptr::addr_of!(" ++ bound ++ ")")
  | .stringHandle =>
    let text :=
      match crossing.type with
      | .str true => name ++ ".as_str()"
      | _ => name
    ([.opening "\x7b",
      .text ("let " ++ bound ++ " = " ++ runtime ++ "::NativeString::new(" ++ text ++ ");")],
      bound ++ ".as_ptr()")
  | .nativeHandleObject true =>
    ([.text ("let " ++ bound ++ " = " ++ runtime ++ "::nullable_handle_ptr(" ++ name ++ ");")],
      bound)
  | .nativeHandleObject false =>
    ([.text ("let " ++ bound ++ " = " ++ runtime ++ "::handle_ptr(" ++ name ++ ", \"" ++
      Naming.stem name ++ "\");")], bound)

/-- The statements after the call for a parameter of a name: a truth value is written back, and an
open block is closed. -/
def afterCall (crossing : Crossing) (name runtime : String) : List Line :=
  match crossing.strategy, crossing.mode with
  | .boolean, .ref | .boolean, .out =>
    [.text ("*" ++ name ++ " = " ++ runtime ++ "::bool_from_native(__" ++ Naming.stem name ++
      "_native);")]
  | _, _ => if crossing.opensScope then [.closing] else []

/-- The expression that turns the native result into the managed one. -/
def unmarshal (crossing : Crossing) (value runtime : String) : String :=
  match crossing.strategy with
  | .boolean => runtime ++ "::bool_from_native(" ++ value ++ ")"
  | .stringHandle => "unsafe \x7b " ++ runtime ++ "::NativeString::take(" ++ value ++ ") \x7d"
  | .default | .nativeHandleObject _ => value

end Crossing
end NativeThunks
