/-! Managed objects that wrap a native address. An object that must be live is refused before the
native call if its address is null. -/
namespace NativeThunks.Native

/-- A native address. -/
abbrev Address := UInt64

/-- An object that must be live has no address. -/
structure NullHandle where
  parameter : String
deriving DecidableEq, Repr

def NullHandle.message (fault : NullHandle) : String :=
  "Native handle passed as '" ++ fault.parameter ++ "' has a null native pointer"

/-- The address of an object that must be live. -/
def handleAddress (address : Address) (parameter : String) : Except NullHandle Address :=
  if address = 0 then .error ⟨parameter⟩ else .ok address

/-- The address of an object that may be absent, which becomes null. -/
def nullableHandleAddress (address : Option Address) : Address := address.getD 0

end NativeThunks.Native
