import NativeThunks.Declaration
import NativeThunks.Naming

/-! The names computed for a member. Entry points are a contract with the native side: the native
type name, an underscore, a mark for accessors, and the native member name, all verbatim. -/
namespace NativeThunks

/-- The receiver's name where a declaration does not give one. -/
def defaultReceiver : String := "__this"

/-- The container's name on the native side. -/
def Container.nativeTypeName (container : Container) : String :=
  container.nativeName.getD container.name

/-- What stands before the member name in an entry point. -/
def MemberKind.accessorMark : MemberKind → String
  | .method => ""
  | .propertyGetter => "Get"
  | .propertySetter => "Set"

/-- The static that caches the address behind an entry point. -/
def slotName (entryPoint : String) : String := "__" ++ entryPoint ++ "_FunctionPointer"

namespace Declaration

/-- The member's name on the native side. -/
def nativeMemberName (decl : Declaration) : String := decl.nativeName.getD decl.name

/-- The native function that the member binds to. -/
def entryPoint (decl : Declaration) : String :=
  decl.container.nativeTypeName ++ "_" ++ decl.kind.accessorMark ++ decl.nativeMemberName

def functionName (decl : Declaration) : String :=
  match decl.kind with
  | .propertySetter => "set_" ++ Naming.snakeCase decl.name
  | _ => Naming.escapeReserved (Naming.snakeCase decl.name)

/-- The name of the receiver argument; a static member has none. -/
def receiverName (decl : Declaration) (fallback : String) : Option String :=
  if decl.isStatic then none else some (decl.thisName.getD fallback)

end Declaration

structure MemberSymbols where
  entryPoint : String
  slot : String
  functionName : String
  receiver : Option String
deriving DecidableEq, Repr

/-- The names of a member, with the receiver's name to fall back on. -/
def MemberSymbols.ofDeclaration (decl : Declaration) (fallback : String) : MemberSymbols where
  entryPoint := decl.entryPoint
  slot := slotName decl.entryPoint
  functionName := decl.functionName
  receiver := decl.receiverName fallback

end NativeThunks
