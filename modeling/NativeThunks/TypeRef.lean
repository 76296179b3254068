/-! Types as declarations name them, and the shapes that the choice of marshaling looks at. -/
namespace NativeThunks

/-- The built-in scalar types that cross the boundary by value. -/
inductive Primitive where
  | i8 | i16 | i32 | i64 | isize
  | u8 | u16 | u32 | u64 | usize
  | f32 | f64
  | char
deriving DecidableEq, Repr

/-- The size of a scalar; pointers have the size of the target's addresses. -/
inductive Width where
  | bits8 | bits16 | bits32 | bits64
  | pointer
deriving DecidableEq, Repr

/-- How the bits of a scalar are read. An address is a raw data or code pointer. -/
inductive NumericKind where
  | signed | unsigned | float | char | address
deriving DecidableEq, Repr

namespace Primitive

/-- Every built-in scalar type, in the order of its declaration. -/
def all : List Primitive :=
  [.i8, .i16, .i32, .i64, .isize, .u8, .u16, .u32, .u64, .usize, .f32, .f64, .char]

/-- The name of the type, in source text and in documents alike. -/
def name : Primitive → String
  | .i8 => "i8" | .i16 => "i16" | .i32 => "i32" | .i64 => "i64" | .isize => "isize"
  | .u8 => "u8" | .u16 => "u16" | .u32 => "u32" | .u64 => "u64" | .usize => "usize"
  | .f32 => "f32" | .f64 => "f64"
  | .char => "char"

def width : Primitive → Width
  | .i8 | .u8 => .bits8
  | .i16 | .u16 => .bits16
  | .i32 | .u32 | .f32 | .char => .bits32
  | .i64 | .u64 | .f64 => .bits64
  | .isize | .usize => .pointer

/-- The reading of the type's bits. -/
def kind : Primitive → NumericKind
  | .i8 | .i16 | .i32 | .i64 | .isize => .signed
  | .u8 | .u16 | .u32 | .u64 | .usize => .unsigned
  | .f32 | .f64 => .float
  | .char => .char

end Primitive

/-- A type as it stands in a declaration. Paths are spelled as the including module sees them. -/
inductive TypeRef where
  /-- No value; only a return type may be one. -/
  | unit
  | primitive (name : Primitive)
  | bool
  /-- Text, borrowed or owned. A returned text is always owned. -/
  | str (owned : Bool)
  /-- An enumeration without fields, laid out like a primitive. -/
  | enum (path : String) (repr : Primitive)
  | pointer (pointee : String) (mutable : Bool)
  | fnPointer (path : String)
  /-- A managed object that wraps a native pointer. -/
  | nativeObject (path : String) (nullable : Bool)
  /-- Any other type, passed by value as it is. -/
  | named (path : String)
deriving DecidableEq, Repr

/-- What the choice of marshaling depends on. -/
inductive Shape where
  | primitive (width : Width) (kind : NumericKind)
  | boolean
  | stringHandle
  | nativeHandleObject (nullable : Bool)
  | other
deriving DecidableEq, Repr

/-- Whether values of this shape fit a parameter wrapper. -/
def Shape.isScalar : Shape → Bool
  | .primitive _ _ => true
  | _ => false

namespace TypeRef

/-- Whether the type has no value. -/
def isUnit : TypeRef → Bool
  | .unit => true
  | _ => false

/-- The spelling of the bare type in source text, without a reference for the pass mode. -/
def spelling : TypeRef → String
  | .unit => "()"
  | .primitive name => name.name
  | .bool => "bool"
  | .str true => "String"
  | .str false => "&str"
  | .enum path _ => path
  | .pointer pointee true => "*mut " ++ pointee
  | .pointer pointee false => "*const " ++ pointee
  | .fnPointer path => path
  | .nativeObject path _ => path
  | .named path => path

/-- The paths that a declaration supplied for the type. -/
def paths : TypeRef → List String
  | .enum path _ | .fnPointer path | .nativeObject path _ | .named path => [path]
  | .pointer pointee _ => [pointee]
  | .unit | .primitive _ | .bool | .str _ => []

/-- The spelling of the type in messages. -/
def display : TypeRef → String
  | .str _ => "str"
  | .nativeObject path true => "Option<&" ++ path ++ ">"
  | type => type.spelling

/-- The shape of a type. An enumeration has the shape of its layout. -/
def shape : TypeRef → Shape
  | .primitive name | .enum _ name => .primitive name.width name.kind
  | .pointer _ _ | .fnPointer _ => .primitive .pointer .address
  | .bool => .boolean
  | .str _ => .stringHandle
  | .nativeObject _ nullable => .nativeHandleObject nullable
  | .unit | .named _ => .other

end TypeRef
end NativeThunks
