/-! Truth values cross the boundary as 32-bit numbers. -/
namespace NativeThunks.Native

/-- The number for a truth value: one or zero. -/
def ofBool (value : Bool) : Int32 := if value then 1 else 0

/-- The truth value of a number: any but zero is true. -/
def toBool (value : Int32) : Bool := value != 0

end NativeThunks.Native
