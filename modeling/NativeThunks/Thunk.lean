import NativeThunks.Legality
import NativeThunks.Wrapper

/-! Thunks: for every member a static slot that caches the address of the native function, and a
function that converts its arguments, calls through the slot, and converts the result. The thunks of
one container make up a unit. -/
namespace NativeThunks

/-- The visibility of an item inside the module of the unit that equals the given visibility
outside of it. -/
def Visibility.insideUnit : Visibility → String
  | .everywhere => "pub"
  | .crate => "pub(crate)"
  | .parent => "pub(in super::super)"
  | .hidden => "pub(super)"

def Container.moduleName (container : Container) : String := "__" ++ container.name ++ "_binding"

/-- One argument of a native call: its type in the slot and the expression passed. -/
structure NativeArgument where
  type : NativeType
  expression : String
deriving DecidableEq, Repr

/-- One argument as it is written down. -/
structure WrittenArgument where
  type : String
  expression : String
deriving DecidableEq, Repr

/-- Writes an argument down. Scalars go through the wrapper of their type if the configuration says
so. -/
def WrapperTable.write (table : WrapperTable) (config : Config) (argument : NativeArgument) :
    WrittenArgument × WrapperTable :=
  if config.wrapScalars && argument.type.scalar then
    let (name, table) := table.intern argument.type.text
    (⟨name, name ++ "::from(" ++ argument.expression ++ ")"⟩, table)
  else (⟨argument.type.text, argument.expression⟩, table)

/-- Writes arguments down in their order. -/
def WrapperTable.writeAll (table : WrapperTable) (config : Config) :
    List NativeArgument → List WrittenArgument × WrapperTable
  | [] => ([], table)
  | argument :: rest =>
    let (written, table) := table.write config argument
    let (more, table) := table.writeAll config rest
    (written :: more, table)

namespace MemberPlan

/-- Whether the member returns a value. -/
def hasResult (plan : MemberPlan) : Bool := !plan.ret.type.isUnit

/-- Whether a parameter opens a block around the call. -/
def isScoped (plan : MemberPlan) : Bool := plan.params.any (·.crossing.opensScope)

/-- The arguments of the native call: the receiver's pointer, then the parameters. -/
def nativeArguments (plan : MemberPlan) (runtime : String) : List NativeArgument :=
  (match plan.symbols.receiver with
    | some receiver => [⟨⟨opaquePointer, true⟩, receiver⟩]
    | none => []) ++
  plan.params.map fun parameter =>
    ⟨parameter.crossing.nativeType, (parameter.crossing.beforeCall parameter.ident runtime).2⟩

def call (written : List WrittenArgument) : String :=
  "unsafe \x7b __native(" ++ ", ".intercalate (written.map (·.expression)) ++ ") \x7d"

/-- The body of the function. A result is declared before the blocks of the parameters and returned
behind them. -/
def body (plan : MemberPlan) (runtime : String) (written : List WrittenArgument) : List Line :=
  [.text ("let __native = " ++ plan.symbols.slot ++ ".get_or_resolve(\"" ++
    plan.symbols.entryPoint ++ "\");")] ++
  (match plan.symbols.receiver with
    | some receiver =>
      [.text ("let " ++ receiver ++ " = " ++ runtime ++ "::handle_ptr(self, \"self\");")]
    | none => []) ++
  (if plan.hasResult && plan.isScoped then [.text "let __result;"] else []) ++
  plan.params.flatMap (fun parameter =>
    (parameter.crossing.beforeCall parameter.ident runtime).1) ++
  [.text ((if plan.hasResult then if plan.isScoped then "__result = " else "let __result = "
    else "") ++ call written ++ ";")] ++
  plan.params.reverse.flatMap (fun parameter =>
    parameter.crossing.afterCall parameter.ident runtime) ++
  (if plan.hasResult then [.text (plan.ret.unmarshal "__result" runtime)] else [])

/-- The return type of a signature, with its arrow. -/
def returnSuffix (plan : MemberPlan) (type : String) : String :=
  if plan.hasResult then " -> " ++ type else ""

def slot (plan : MemberPlan) (config : Config) (written : List WrittenArgument) : List Line :=
  let runtime := config.runtimePath
  [.text "#[doc(hidden)]",
    .text ("static " ++ plan.symbols.slot ++ ": " ++ runtime ++ "::NativeSlot<unsafe extern \"" ++
      config.convention.text ++ "\" fn(" ++ ", ".intercalate (written.map (·.type)) ++ ")" ++
      plan.returnSuffix plan.ret.nativeType.text ++ "> = " ++ runtime ++ "::NativeSlot::new();")]

/-- The parameters in the signature of the function. -/
def signature (plan : MemberPlan) : List String :=
  (if plan.symbols.receiver.isSome then ["&self"] else []) ++
  plan.params.map fun parameter =>
    parameter.ident ++ ": " ++ parameter.crossing.managedType

def docLine (plan : MemberPlan) : String :=
  "/// Calls the native entry point `" ++ plan.symbols.entryPoint ++ "`."

def headLine (plan : MemberPlan) : String :=
  plan.decl.effectiveVisibility.insideUnit ++ " fn " ++ plan.symbols.functionName ++ "(" ++
    ", ".intercalate plan.signature ++ ")" ++ plan.returnSuffix plan.ret.managedReturnType ++ " \x7b"

def function (plan : MemberPlan) (runtime : String) (written : List WrittenArgument) :
    List Line :=
  [.text plan.docLine, .opening plan.headLine] ++ plan.body runtime written ++ [.closing]

end MemberPlan

/-- The generated items of one member. -/
structure Thunk where
  slot : List Line
  function : List Line
deriving DecidableEq, Repr

/-- Writes the thunk of a member, with the wrappers that are known so far. -/
def Thunk.ofPlan (config : Config) (table : WrapperTable) (plan : MemberPlan) :
    Thunk × WrapperTable :=
  let (written, table) := table.writeAll config (plan.nativeArguments config.runtimePath)
  ({ slot := plan.slot config written,
     function := plan.function config.runtimePath written }, table)

/-- The thunks of a unit under construction, with their wrappers. -/
structure ThunkList where
  thunks : List Thunk := []
  wrappers : WrapperTable := {}
deriving DecidableEq, Repr

namespace ThunkList

def add (config : Config) (list : ThunkList) (plan : MemberPlan) : ThunkList :=
  let (thunk, wrappers) := Thunk.ofPlan config list.wrappers plan
  ⟨list.thunks ++ [thunk], wrappers⟩

def ofPlans (config : Config) (plans : List MemberPlan) : ThunkList := plans.foldl (add config) {}

def size (list : ThunkList) : Nat := list.thunks.length

end ThunkList

/-- The comment at the start of a unit. -/
def unitHeader (container : Container) (nativeType : String) (members : Nat) : List Line := [
  .text "// Generated by bridgegen. DO NOT EDIT.",
  .text "//",
  .text ("// Type: " ++ container.path),
  .text ("// Native type: " ++ nativeType),
  .text ("// Native members: " ++ toString members),
  .blank]

/-- The start of the module of a unit. -/
def unitPrelude (container : Container) : List Line := [
  .text "#[doc(hidden)]",
  .text "#[allow(non_snake_case)]",
  .opening ("mod " ++ container.moduleName ++ " \x7b"),
  .text ("#![allow(non_upper_case_globals, non_camel_case_types, non_snake_case, dead_code, " ++
    "unused_unsafe, clippy::all)]"),
  .blank,
  .text "use super::*;",
  .blank]

namespace ThunkList

def slots (list : ThunkList) : List Line := list.thunks.flatMap (·.slot)

/-- The functions of all members, with an empty line between two of them. -/
def functions (list : ThunkList) : List Line :=
  [Line.blank].intercalate (list.thunks.map (·.function))

/-- The lines of a unit behind its header: the slots, the functions in one block of the container,
and the wrappers. -/
def module (list : ThunkList) (container : Container) : List Line :=
  unitPrelude container ++
  list.slots ++
  [.blank, .opening ("impl " ++ container.name ++ " \x7b")] ++
  list.functions ++
  [.closing] ++
  list.wrappers.definitions ++
  [.closing]

def lines (list : ThunkList) (config : Config) (container : Container) (nativeType : String) :
    List Line :=
  (if config.emitHeader then unitHeader container nativeType list.size else []) ++
  list.module container

def source (list : ThunkList) (config : Config) (container : Container) (nativeType : String) :
    String :=
  render 0 (list.lines config container nativeType)

end ThunkList
end NativeThunks
