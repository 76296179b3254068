import NativeThunks.TypeRef

/-! Declarations of native members, as a front end hands them over. -/
namespace NativeThunks

/-- A position in a source file. Lines and columns are 32-bit numbers. -/
structure SourceLocation where
  file : String
  line : UInt32
  column : UInt32
deriving DecidableEq, Repr

/-- File, line and column, separated by colons. -/
def SourceLocation.text (location : SourceLocation) : String :=
  location.file ++ ":" ++ toString location.line.toNat ++ ":" ++ toString location.column.toNat

/-- The type that owns a member. -/
structure Container where
  /-- The full path; members are grouped by it. -/
  path : String
  /-- The simple name, for the implementation block and the unit's file. -/
  name : String
  /-- Replaces the name in entry points. -/
  nativeName : Option String := none
  generic : Bool := false
  /-- Declared inside another type. -/
  nested : Bool := false
  /-- Marked by the front end as accepting generated members. -/
  generated : Bool := true
  location : Option SourceLocation := none
deriving DecidableEq, Repr

/-- The part of a path behind its last double colon, found from the end: of three colons the last
two separate. -/
def lastSegment (path : List Char) : List Char :=
  go path.reverse []
where
  /-- Walks back over the reversed path. -/
  go : List Char → List Char → List Char
    | [], found => found
    | ':' :: ':' :: _, found => found
    | c :: rest, found => go rest (c :: found)

/-- A container known by its path alone. -/
def Container.ofPath (path : String) : Container where
  path := path
  name := String.ofList (lastSegment path.toList)

inductive MemberKind where
  | method
  | propertyGetter
  | propertySetter
deriving DecidableEq, Repr

namespace MemberKind

/-- Getters and setters are accessors. -/
def isAccessor : MemberKind → Bool
  | .method => false
  | .propertyGetter | .propertySetter => true

/-- The words for a kind in messages. -/
def text : MemberKind → String
  | .method => "method"
  | .propertyGetter => "property getter"
  | .propertySetter => "property setter"

end MemberKind

/-- Where a member is visible. `parent` is the parent of the container's module. -/
inductive Visibility where
  | everywhere
  | crate
  | parent
  | hidden
deriving DecidableEq, Repr

namespace Visibility

/-- Visibilities from the narrowest to the widest. -/
def rank : Visibility → Nat
  | .hidden => 0
  | .parent => 1
  | .crate => 2
  | .everywhere => 3

/-- The narrower of two visibilities. -/
def narrowest (a b : Visibility) : Visibility := if b.rank < a.rank then b else a

end Visibility

/-- How a parameter crosses the boundary. -/
inductive PassMode where
  | value
  | ref
  | in
  | out
deriving DecidableEq, Repr

namespace PassMode

/-- Every mode but by value passes a reference. -/
def isByRef : PassMode → Bool
  | .value => false
  | _ => true

/-- The word for a mode in messages. -/
def text : PassMode → String
  | .value => "value"
  | .ref => "ref"
  | .in => "in"
  | .out => "out"

end PassMode

structure Parameter where
  name : String
  type : TypeRef
  mode : PassMode := .value
deriving DecidableEq, Repr

structure Declaration where
  container : Container
  name : String
  kind : MemberKind
  isStatic : Bool := false
  visibility : Visibility := .hidden
  /-- For accessors only; never widens the visibility of the member. -/
  accessorVisibility : Option Visibility := none
  params : List Parameter := []
  ret : TypeRef := .unit
  /-- Replaces the name in the entry point. -/
  nativeName : Option String := none
  /-- Replaces the name of the receiver argument. -/
  thisName : Option String := none
  generic : Bool := false
  /-- Marked by the front end as requiring a generated body. -/
  generated : Bool := true
  location : Option SourceLocation := none
deriving DecidableEq, Repr

namespace Declaration

/-- A public member without parameters and value. -/
def member (container : Container) (name : String) (kind : MemberKind) : Declaration where
  container := container
  name := name
  kind := kind
  visibility := .everywhere

def method (container : Container) (name : String) : Declaration := member container name .method

def getter (container : Container) (name : String) (type : TypeRef) : Declaration :=
  { member container name .propertyGetter with ret := type }

def setter (container : Container) (name : String) (type : TypeRef) : Declaration :=
  { member container name .propertySetter with params := [{ name := "value", type := type }] }

/-- The visibility of the generated item: an accessor may narrow that of its property. -/
def effectiveVisibility (decl : Declaration) : Visibility :=
  match decl.kind.isAccessor, decl.accessorVisibility with
  | true, some accessor => decl.visibility.narrowest accessor
  | _, _ => decl.visibility

/-- The place that a diagnostic points at: the member's, else its container's. -/
def place (decl : Declaration) : Option SourceLocation :=
  decl.location.or decl.container.location

end Declaration
end NativeThunks
