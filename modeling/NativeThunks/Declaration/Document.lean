import NativeThunks.Declaration
import NativeThunks.Json.Decode
import NativeThunks.Json.Value

/-! Declarations as JSON documents: what a front end writes and what is written back. A written
document names every field; a read one may leave out those that have a default. -/
namespace NativeThunks
open Json

/-- The declarations of one build. -/
structure DeclarationSet where
  declarations : List Declaration
deriving DecidableEq, Repr

namespace Document

/-- A field whose value is kept in a draft until the record is complete. -/
def field {σ β : Type} (name : String) (required : Bool) (decode : Decoder β)
    (get : σ → Option β) (put : σ → β → σ) : RecordField σ where
  name := name
  required := required
  isSet draft := (get draft).isSome
  read origin node draft := (decode origin node).map (put draft)

/-- The value of a field without a default. -/
def need {β : Type} (name : String) : Option β → Except DataFault β
  | some value => .ok value
  | none => .error (.missingField name)

/-! Names of variants -/

/-- The scalar types by name. -/
def primitives : List (String × Primitive) := Primitive.all.map fun primitive =>
  (primitive.name, primitive)

def kindWord : MemberKind → String
  | .method => "method"
  | .propertyGetter => "property_getter"
  | .propertySetter => "property_setter"

def kinds : List (String × MemberKind) :=
  [.method, .propertyGetter, .propertySetter].map fun kind => (kindWord kind, kind)

def visibilityWord : Visibility → String
  | .everywhere => "public"
  | .crate => "crate"
  | .parent => "super"
  | .hidden => "private"

def visibilities : List (String × Visibility) :=
  [.everywhere, .crate, .parent, .hidden].map fun visibility =>
    (visibilityWord visibility, visibility)

def modes : List (String × PassMode) :=
  [.value, .ref, .in, .out].map fun mode => (mode.text, mode)

/-! Types: an object whose `kind` selects the other fields. The whole value is read before the
selected fields are looked at, so `kind` may stand anywhere. -/

/-- The kinds of types, in the order in which messages list them. -/
inductive TypeKind where
  | unit | primitive | bool | str | enum | pointer | fnPointer | nativeObject | named
deriving DecidableEq, Repr

def typeKindWord : TypeKind → String
  | .unit => "unit"
  | .primitive => "primitive"
  | .bool => "bool"
  | .str => "str"
  | .enum => "enum"
  | .pointer => "pointer"
  | .fnPointer => "fn_pointer"
  | .nativeObject => "native_object"
  | .named => "named"

def typeKinds : List (String × TypeKind) :=
  [.unit, .primitive, .bool, .str, .enum, .pointer, .fnPointer, .nativeObject, .named].map
    fun kind => (typeKindWord kind, kind)

/-- The parts of a type that have been read. -/
structure TypeDraft where
  /-- The path, or the pointee. -/
  path : Option String := none
  /-- The name of a scalar, or the layout of an enumeration. -/
  scalar : Option Primitive := none
  /-- The flag of the kinds that have one. -/
  flag : Option Bool := none

/-- A text field of a type. -/
def pathField (name : String) : RecordField TypeDraft :=
  field name true Decoder.string TypeDraft.path fun draft value => { draft with path := some value }

/-- A field of a type that names a scalar. -/
def scalarField (name : String) : RecordField TypeDraft :=
  field name true (Decoder.variant primitives) TypeDraft.scalar
    fun draft value => { draft with scalar := some value }

/-- A flag of a type; it may be left out. -/
def flagField (name : String) : RecordField TypeDraft :=
  field name false Decoder.bool TypeDraft.flag fun draft value => { draft with flag := some value }

/-- The record of one kind of type. -/
def typeRecord (title : String) (fields : List (RecordField TypeDraft))
    (finish : TypeDraft → Except DataFault TypeRef) : Record TypeDraft TypeRef where
  title := "struct variant TypeRef::" ++ title
  fields := fields
  strict := false
  start := {}
  finish := finish

/-- The fields of a kind of type; the kinds without fields have no record. -/
def typeRecord? : TypeKind → Except TypeRef (Record TypeDraft TypeRef)
  | .unit => .error .unit
  | .bool => .error .bool
  | .primitive => .ok <| typeRecord "Primitive" [scalarField "name"] fun draft => do
      return .primitive (← need "name" draft.scalar)
  | .str => .ok <| typeRecord "Str" [flagField "owned"] fun draft =>
      .ok (.str (draft.flag.getD false))
  | .enum => .ok <| typeRecord "Enum" [pathField "path", scalarField "repr"] fun draft => do
      return .enum (← need "path" draft.path) (← need "repr" draft.scalar)
  | .pointer => .ok <| typeRecord "Pointer" [pathField "pointee", flagField "mutable"]
      fun draft => do return .pointer (← need "pointee" draft.path) (draft.flag.getD false)
  | .fnPointer => .ok <| typeRecord "FnPointer" [pathField "path"] fun draft => do
      return .fnPointer (← need "path" draft.path)
  | .nativeObject => .ok <| typeRecord "NativeObject" [pathField "path", flagField "nullable"]
      fun draft => do return .nativeObject (← need "path" draft.path) (draft.flag.getD false)
  | .named => .ok <| typeRecord "Named" [pathField "path"] fun draft => do
      return .named (← need "path" draft.path)

/-- The word that selects the kind of type. -/
def readTypeKind (node : Node) : Except Fault TypeKind :=
  match node with
  | .string quote => do lookup typeKinds (← Quote.decode quote)
  | _ => refuse node "variant identifier"

/-- The lists and objects around a value, where it is read from a text. Elsewhere no depth is too
great. -/
def Origin.fault? (origin : Origin) (node : Node) : Option SyntaxFault :=
  match origin with
  | .document enclosing => node.decodeFault? enclosing
  | _ => none

/-- Splits off the kind from the fields of an object, decoding the other values on the way. -/
def splitKind (origin : Origin) :
    List (Quote × Node) → Option TypeKind → List (Quote × Node) →
    Except Fault (Option TypeKind × List (Quote × Node))
  | [], kind, others => .ok (kind, others.reverse)
  | (key, value) :: rest, kind, others => do
    if (← Quote.decode key) = "kind" then
      match kind with
      | some _ => .error (.data (.duplicateField "kind"))
      | none =>
        let found ← readTypeKind value
        splitKind origin rest (some found) others
    else
      stopAt (Origin.fault? origin value)
      splitKind origin rest kind ((key, value) :: others)

/-- A type from the fields behind its kind. The fields of a kind without fields are ignored. -/
def typeOfFields (kind : TypeKind) (fields : List (Quote × Node)) : Except Fault TypeRef :=
  match typeRecord? kind with
  | .ok record => record.ofFields .buffered fields .closed
  | .error type => .ok type

/-- A type from the items behind its kind. A kind without fields takes none. -/
def typeOfItems (kind : TypeKind) (items : List Node) : Except Fault TypeRef :=
  match typeRecord? kind with
  | .ok record => record.ofItems .buffered items .closed
  | .error type =>
    if items.isEmpty then .ok type
    else .error (.data (.invalidLength items.length "0 elements in sequence"))

def type : Decoder TypeRef := fun origin node =>
  let inner := origin.inner
  match node with
  | .object fields stop => do
    let (kind, others) ← splitKind inner fields none []
    match stop.lastKey? with
    | some key =>
      if (← Quote.decode key) = "kind" && kind.isSome then
        .error (.data (.duplicateField "kind"))
    | none => pure ()
    stopAt stop.decoding
    match kind with
    | some kind => typeOfFields kind others
    | none => .error (.data (.missingField "kind"))
  | .list (first :: rest) stop => do
    let kind ← readTypeKind first
    rest.forM fun item => stopAt (Origin.fault? inner item)
    stopAt stop.decoding
    typeOfItems kind rest
  | .list [] stop => do
    stopAt stop.decoding
    .error (.data (.missingField "kind"))
  | _ => refuse node "internally tagged enum TypeRef"

/-! Source locations -/

/-- The parts of a source location that have been read. -/
structure LocationDraft where
  file : Option String := none
  line : Option UInt32 := none
  column : Option UInt32 := none

/-- A source location; the column may be left out. -/
def locationRecord : Record LocationDraft SourceLocation where
  title := "struct SourceLocation"
  fields := [
    field "file" true Decoder.string (·.file) fun draft value => { draft with file := some value },
    field "line" true Decoder.u32 (·.line) fun draft value => { draft with line := some value },
    field "column" false Decoder.u32 (·.column)
      fun draft value => { draft with column := some value }]
  strict := false
  start := {}
  finish draft := do
    return {
      file := ← need "file" draft.file
      line := ← need "line" draft.line
      column := draft.column.getD 0 }

/-! Containers -/

/-- The parts of a container that have been read. -/
structure ContainerDraft where
  path : Option String := none
  name : Option String := none
  nativeName : Option (Option String) := none
  generic : Option Bool := none
  nested : Option Bool := none
  generated : Option Bool := none
  location : Option (Option SourceLocation) := none

/-- A container; only the path and the name are required. -/
def containerRecord : Record ContainerDraft Container where
  title := "struct Container"
  fields := [
    field "path" true Decoder.string (·.path) fun draft value => { draft with path := some value },
    field "name" true Decoder.string (·.name) fun draft value => { draft with name := some value },
    field "native_name" false (Decoder.option Decoder.string) (·.nativeName)
      fun draft value => { draft with nativeName := some value },
    field "generic" false Decoder.bool (·.generic)
      fun draft value => { draft with generic := some value },
    field "nested" false Decoder.bool (·.nested)
      fun draft value => { draft with nested := some value },
    field "generated" false Decoder.bool (·.generated)
      fun draft value => { draft with generated := some value },
    field "location" false (Decoder.option locationRecord.decode) (·.location)
      fun draft value => { draft with location := some value }]
  strict := false
  start := {}
  finish draft := do
    return {
      path := ← need "path" draft.path
      name := ← need "name" draft.name
      nativeName := draft.nativeName.getD none
      generic := draft.generic.getD false
      nested := draft.nested.getD false
      generated := draft.generated.getD true
      location := draft.location.getD none }

/-! Parameters -/

/-- The parts of a parameter that have been read. -/
structure ParameterDraft where
  name : Option String := none
  type : Option TypeRef := none
  mode : Option PassMode := none

/-- A parameter; the mode may be left out. -/
def parameterRecord : Record ParameterDraft Parameter where
  title := "struct Parameter"
  fields := [
    field "name" true Decoder.string (·.name) fun draft value => { draft with name := some value },
    field "ty" true type (·.type) fun draft value => { draft with type := some value },
    field "mode" false (Decoder.variant modes) (·.mode)
      fun draft mode => { draft with mode := some mode }]
  strict := false
  start := {}
  finish draft := do
    return {
      name := ← need "name" draft.name
      type := ← need "ty" draft.type
      mode := draft.mode.getD .value }

/-! Declarations -/

/-- The parts of a declaration that have been read. -/
structure DeclarationDraft where
  container : Option Container := none
  name : Option String := none
  kind : Option MemberKind := none
  isStatic : Option Bool := none
  visibility : Option Visibility := none
  accessorVisibility : Option (Option Visibility) := none
  params : Option (List Parameter) := none
  ret : Option TypeRef := none
  nativeName : Option (Option String) := none
  thisName : Option (Option String) := none
  generic : Option Bool := none
  generated : Option Bool := none
  location : Option (Option SourceLocation) := none

/-- A declaration; the container, the name and the kind are required. -/
def declarationRecord : Record DeclarationDraft Declaration where
  title := "struct Declaration"
  fields := [
    field "container" true containerRecord.decode (·.container)
      fun draft value => { draft with container := some value },
    field "name" true Decoder.string (·.name) fun draft value => { draft with name := some value },
    field "kind" true (Decoder.variant kinds) (·.kind)
      fun draft value => { draft with kind := some value },
    field "static" false Decoder.bool (·.isStatic)
      fun draft value => { draft with isStatic := some value },
    field "visibility" false (Decoder.variant visibilities) (·.visibility)
      fun draft value => { draft with visibility := some value },
    field "accessor_visibility" false (Decoder.option (Decoder.variant visibilities))
      (·.accessorVisibility) fun draft value => { draft with accessorVisibility := some value },
    field "params" false (Decoder.list parameterRecord.decode) (·.params)
      fun draft value => { draft with params := some value },
    field "ret" false type (·.ret) fun draft value => { draft with ret := some value },
    field "native_name" false (Decoder.option Decoder.string) (·.nativeName)
      fun draft value => { draft with nativeName := some value },
    field "this_name" false (Decoder.option Decoder.string) (·.thisName)
      fun draft value => { draft with thisName := some value },
    field "generic" false Decoder.bool (·.generic)
      fun draft value => { draft with generic := some value },
    field "generated" false Decoder.bool (·.generated)
      fun draft value => { draft with generated := some value },
    field "location" false (Decoder.option locationRecord.decode) (·.location)
      fun draft value => { draft with location := some value }]
  strict := false
  start := {}
  finish draft := do
    return {
      container := ← need "container" draft.container
      name := ← need "name" draft.name
      kind := ← need "kind" draft.kind
      isStatic := draft.isStatic.getD false
      visibility := draft.visibility.getD .hidden
      accessorVisibility := draft.accessorVisibility.getD none
      params := draft.params.getD []
      ret := draft.ret.getD .unit
      nativeName := draft.nativeName.getD none
      thisName := draft.thisName.getD none
      generic := draft.generic.getD false
      generated := draft.generated.getD true
      location := draft.location.getD none }

/-- A set of declarations. -/
def setRecord : Record (Option (List Declaration)) DeclarationSet where
  title := "struct DeclarationSet"
  fields := [
    field "declarations" true (Decoder.list declarationRecord.decode) id fun _ value => some value]
  strict := false
  start := none
  finish draft := do return { declarations := ← need "declarations" draft }

end Document

/-! Writing: every field in its order, the kind of a type before its other fields. -/

def TypeRef.toJson (type : TypeRef) : Value :=
  let tagged (kind : Document.TypeKind) (fields : List (String × Value)) : Value :=
    .object (("kind", .string (Document.typeKindWord kind)) :: fields)
  match type with
  | .unit => tagged .unit []
  | .primitive name => tagged .primitive [("name", .string name.name)]
  | .bool => tagged .bool []
  | .str owned => tagged .str [("owned", .bool owned)]
  | .enum path repr => tagged .enum [("path", .string path), ("repr", .string repr.name)]
  | .pointer pointee mutable =>
    tagged .pointer [("pointee", .string pointee), ("mutable", .bool mutable)]
  | .fnPointer path => tagged .fnPointer [("path", .string path)]
  | .nativeObject path nullable =>
    tagged .nativeObject [("path", .string path), ("nullable", .bool nullable)]
  | .named path => tagged .named [("path", .string path)]

def SourceLocation.toJson (location : SourceLocation) : Value :=
  .object [
    ("file", .string location.file),
    ("line", .whole location.line.toNat),
    ("column", .whole location.column.toNat)]

def Container.toJson (container : Container) : Value :=
  .object [
    ("path", .string container.path),
    ("name", .string container.name),
    ("native_name", .option .string container.nativeName),
    ("generic", .bool container.generic),
    ("nested", .bool container.nested),
    ("generated", .bool container.generated),
    ("location", .option SourceLocation.toJson container.location)]

def Parameter.toJson (parameter : Parameter) : Value :=
  .object [
    ("name", .string parameter.name),
    ("ty", parameter.type.toJson),
    ("mode", .string parameter.mode.text)]

def Declaration.toJson (decl : Declaration) : Value :=
  let visibility (visibility : Visibility) : Value := .string (Document.visibilityWord visibility)
  .object [
    ("container", decl.container.toJson),
    ("name", .string decl.name),
    ("kind", .string (Document.kindWord decl.kind)),
    ("static", .bool decl.isStatic),
    ("visibility", visibility decl.visibility),
    ("accessor_visibility", .option visibility decl.accessorVisibility),
    ("params", .list (decl.params.map Parameter.toJson)),
    ("ret", decl.ret.toJson),
    ("native_name", .option .string decl.nativeName),
    ("this_name", .option .string decl.thisName),
    ("generic", .bool decl.generic),
    ("generated", .bool decl.generated),
    ("location", .option SourceLocation.toJson decl.location)]

namespace DeclarationSet

def toJson (set : DeclarationSet) : Value :=
  .object [("declarations", .list (set.declarations.map Declaration.toJson))]

def render (set : DeclarationSet) : String := set.toJson.render

def ofText (text : String) : Except Fault DeclarationSet :=
  Decoder.ofText Document.setRecord.decode text

end DeclarationSet
end NativeThunks
