import NativeThunks.DataFault
import NativeThunks.Json.Reader

/-! Typed reading of JSON trees. A decoder meets the parts of a tree in document order and stops at
the first fault, be it in the text or in the data. -/
namespace NativeThunks.Json
open NativeThunks.Text

/-- Why a document cannot be read. -/
inductive Fault where
  | text (fault : SyntaxFault)
  | data (fault : DataFault)
deriving DecidableEq, Repr

def Fault.message : Fault → String
  | .text fault => fault.message
  | .data fault => fault.message

/-- Where a tree comes from: the text of a document, read from the front inside a number of lists
and objects; a value in memory; or a part of a document that was decoded before its meaning was
known. -/
inductive Origin where
  | document (enclosing : Nat)
  | memory
  | buffered
deriving DecidableEq, Repr

/-- The origin of the parts of a list or an object. -/
def Origin.inner : Origin → Origin
  | .document enclosing => .document (enclosing + 1)
  | origin => origin

/-- A typed reader. -/
abbrev Decoder (α : Type) := Origin → Node → Except Fault α

/-- Fails with a fault of the text, if there is one. -/
def stopAt : Option SyntaxFault → Except Fault Unit
  | none => .ok ()
  | some fault => .error (.text fault)

def Quote.decode : Quote → Except Fault String
  | .ok text => .ok text
  | .error fault => .error (.text fault)

/-- Refuses a value of another type; a value that cannot be read is refused for that. -/
def refuse {α : Type} (node : Node) (expected : String) : Except Fault α :=
  match node.describe with
  | .ok found => .error (.data (.invalidType found expected))
  | .error fault => .error (.text fault)

def Decoder.string : Decoder String := fun _ node =>
  match node with
  | .string quote => Quote.decode quote
  | _ => refuse node "a string"

def Decoder.bool : Decoder Bool := fun _ node =>
  match node with
  | .bool value => .ok value
  | _ => refuse node "a boolean"

/-- A whole number between two bounds. -/
def Decoder.whole (least greatest : Int) (expected : String) : Decoder Int := fun _ node =>
  let within (number : Number) (value : Int) : Except Fault Int :=
    if least ≤ value ∧ value ≤ greatest then .ok value
    else .error (.data (.invalidValue number.describe expected))
  match node with
  | .number (.ok (.whole value)) => within (.whole value) value
  | .number (.ok (.negative magnitude)) => within (.negative magnitude) (-magnitude)
  | _ => refuse node expected

/-- A 32-bit number without a sign. -/
def Decoder.u32 : Decoder UInt32 := fun origin node => do
  let value ← Decoder.whole 0 4294967295 "u32" origin node
  return value.toNat.toUInt32

/-- A 32-bit number with a sign. -/
def Decoder.i32 : Decoder Int := Decoder.whole (-2147483648) 2147483647 "i32"

def Decoder.option {α : Type} (decode : Decoder α) : Decoder (Option α) := fun origin node =>
  match node with
  | .null => .ok none
  | .broken (some 'n') decoding _ => .error (.text decoding)
  | _ => (decode origin node).map some

def decodeItems {α : Type} (decode : Node → Except Fault α) : List Node → Except Fault (List α)
  | [] => .ok []
  | item :: rest => do
    let value ← decode item
    let values ← decodeItems decode rest
    return value :: values

def Decoder.list {α : Type} (decode : Decoder α) : Decoder (List α) := fun origin node =>
  match node with
  | .list items stop => do
    let values ← decodeItems (decode origin.inner) items
    stopAt stop.decoding
    return values
  | _ => refuse node "a sequence"

/-- The value that a name stands for. -/
def lookup {α : Type} (variants : List (String × α)) (name : String) : Except Fault α :=
  match variants.find? (·.1 == name) with
  | some (_, value) => .ok value
  | none => .error (.data (.unknownVariant name (variants.map (·.1))))

/-- The null behind the name of a variant. A buffered empty object counts as null. -/
def decodeNull (origin : Origin) (node : Node) : Except Fault Unit :=
  match origin, node with
  | _, .null => .ok ()
  | .buffered, .object [] .closed => .ok ()
  | _, _ => refuse node "unit"

/-- A variant in an object of a document: its name, a colon and null, and nothing else. -/
def decodeVariantField {α : Type} (variants : List (String × α)) (origin : Origin)
    (fields : List (Quote × Node)) (stop : ObjectStop) : Except Fault α := do
  match fields with
  | (key, value) :: rest =>
    let found ← lookup variants (← Quote.decode key)
    decodeNull origin.inner value
    match rest, stop with
    | [], .closed => return found
    | [], .textEnds => .error (.text .endInObject)
    | _, _ => .error (.text .expectedValue)
  | [] =>
    match stop with
    | .noKey found => refuse found "variant identifier"
    | .textEnds => .error (.text .endInValue)
    | .brokenKey decoding _ => .error (.text decoding)
    | .keyThenEnd key =>
      let _ ← lookup variants (← Quote.decode key)
      .error (.text .endInObject)
    | .keyThenOther key =>
      let _ ← lookup variants (← Quote.decode key)
      .error (.text .expectedColon)
    | _ => .error (.text .expectedValue)

/-- One of several names, alone or as the only key of an object whose value is null. A document
that holds neither a text nor an object here is refused by its first character. -/
def Decoder.variant {α : Type} (variants : List (String × α)) : Decoder α := fun origin node =>
  match origin with
  | .document _ =>
    match node with
    | .string quote => do lookup variants (← Quote.decode quote)
    | .object fields stop => decodeVariantField variants origin fields stop
    | .broken (some '"') decoding _ => .error (.text decoding)
    | .broken none decoding _ => .error (.text decoding)
    | _ => .error (.text .expectedValue)
  | _ =>
    match node with
    | .string quote => do lookup variants (← Quote.decode quote)
    | .object [(key, value)] _ => do
      let found ← lookup variants (← Quote.decode key)
      decodeNull origin value
      return found
    | .object _ _ => .error (.data (.invalidValue "map" "map with a single key"))
    | _ => refuse node "string or map"

/-- One field of a record under construction. -/
structure RecordField (σ : Type) where
  name : String
  /-- Whether a list that ends before this field is an error. -/
  required : Bool
  isSet : σ → Bool
  read : Origin → Node → σ → Except Fault σ

/-- A record: its fields in order, and how it is made of them. -/
structure Record (σ α : Type) where
  /-- What is expected, in messages. -/
  title : String
  fields : List (RecordField σ)
  /-- Whether unknown fields are errors. -/
  strict : Bool
  start : σ
  /-- The finished record, or the first missing field. -/
  finish : σ → Except DataFault α

namespace Record
variable {σ α : Type} (record : Record σ α)

/-- Checks a key before its value is looked at. Answers the field that it names. -/
def accept (key : Quote) (state : σ) : Except Fault (Option (RecordField σ)) := do
  let name ← Quote.decode key
  match record.fields.find? (·.name == name) with
  | some field =>
    if field.isSet state then .error (.data (.duplicateField name)) else return some field
  | none =>
    if record.strict then
      .error (.data (.unknownField name (record.fields.map (·.name))))
    else return none

/-- The fields of an object in document order. The values of unknown ones are skipped. -/
def decodeFields (origin : Origin) : List (Quote × Node) → σ → Except Fault σ
  | [], state => .ok state
  | (key, value) :: rest, state => do
    match ← record.accept key state with
    | some field =>
      let state ← field.read origin value state
      decodeFields origin rest state
    | none =>
      stopAt value.skipFault?
      decodeFields origin rest state

/-- The fields of a list by their positions. The list may end before a field that may be absent.
Answers the items behind the last field. -/
def decodePositions (origin : Origin) (stop : ListStop) :
    List (RecordField σ) → Nat → List Node → σ → Except Fault (List Node × σ)
  | [], _, items, state => .ok (items, state)
  | field :: fields, index, [], state => do
    stopAt stop.decoding
    if field.required then
      let count := record.fields.length
      let elements := if count = 1 then " element" else " elements"
      .error (.data (.invalidLength index
        (record.title ++ " with " ++ toString count ++ elements)))
    else decodePositions origin stop fields (index + 1) [] state
  | field :: fields, index, item :: items, state => do
    let state ← field.read origin item state
    decodePositions origin stop fields (index + 1) items state

/-- What a list holds behind the last field. -/
def finishList (origin : Origin) (items left : List Node) (stop : ListStop) : Except Fault Unit :=
  match origin with
  | .document _ =>
    if left.isEmpty then stopAt stop.finishing else .error (.text .trailingCharacters)
  | .memory =>
    if left.isEmpty then .ok ()
    else .error (.data (.invalidLength items.length "fewer elements in array"))
  | .buffered =>
    if left.isEmpty then .ok ()
    else
      let taken := items.length - left.length
      let elements := if taken = 1 then " element in sequence" else " elements in sequence"
      .error (.data (.invalidLength items.length (toString taken ++ elements)))

/-- A finished record or its fault. -/
def complete (state : σ) : Except Fault α :=
  match record.finish state with
  | .ok value => .ok value
  | .error fault => .error (.data fault)

/-- A record from the fields of an object. -/
def ofFields (origin : Origin) (fields : List (Quote × Node)) (stop : ObjectStop) :
    Except Fault α := do
  let state ← record.decodeFields origin fields record.start
  match stop.lastKey? with
  | some key =>
    let _ ← record.accept key state
  | none => pure ()
  stopAt stop.decoding
  record.complete state

/-- A record from the items of a list. -/
def ofItems (origin : Origin) (items : List Node) (stop : ListStop) : Except Fault α := do
  let (left, state) ← record.decodePositions origin stop record.fields 0 items record.start
  let value ← record.complete state
  finishList origin items left stop
  return value

/-- A record, from an object or from a list of its fields in order. -/
def decode : Decoder α := fun origin node =>
  match node with
  | .object fields stop => record.ofFields origin.inner fields stop
  | .list items stop => record.ofItems origin.inner items stop
  | _ => refuse node record.title

end Record

/-- Reads a document with nothing behind its value. -/
def Decoder.ofText {α : Type} (decode : Decoder α) (text : String) : Except Fault α := do
  let document := Document.ofText text
  let value ← decode (.document 0) document.root
  if document.trailing then .error (.text .trailingCharacters) else return value

end NativeThunks.Json
