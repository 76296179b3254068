import NativeThunks.Toml.Scalar

/-! Reading TOML documents: values, keys, and lines. A document that breaks a rule of the format is
refused as a whole. -/
namespace NativeThunks.Toml

/-- A step of the reader: it takes characters from the front, or fails. -/
abbrev Scan := StateT (List Char) Option

namespace Scan

/-- The steps that are functions of the text. -/
def of {α : Type} (take : List Char → Option (α × List Char)) : Scan α := take

def at? (c : Char) : Scan Bool := return (← get).head? == some c

def char (c : Char) : Scan Unit := fun text => (char? c text).map ((), ·)

def word (spelling : String) : Scan Unit := spelling.toList.forM char

/-- Blanks within a line. -/
def blanks : Scan Unit := modify fun text => text.dropWhile fun c => c == ' ' || c == '\t'

/-- The text behind a comment, at the end of its line. -/
def behindComment : List Char → Option (List Char)
  | '\r' :: '\n' :: rest => some ('\r' :: '\n' :: rest)
  | '\n' :: rest => some ('\n' :: rest)
  | c :: rest => if isPlain c then behindComment rest else none
  | [] => some []

/-- The rest of a line that holds nothing more than blanks and a comment. -/
def lineEnd : Scan Unit := do
  blanks
  if ← at? '#' then fun text => (behindComment text).map ((), ·)
  match ← get with
  | [] => pure ()
  | '\n' :: rest | '\r' :: '\n' :: rest => set rest
  | _ => failure

/-- Whether more than blanks and comments is left, and the text from there on. The flag says that a
comment is going on. -/
def behindLines : Bool → List Char → Option (List Char)
  | false, ' ' :: rest | false, '\t' :: rest => behindLines false rest
  | _, '\n' :: rest | _, '\r' :: '\n' :: rest => behindLines false rest
  | false, '#' :: rest => behindLines true rest
  | true, c :: rest => if isPlain c then behindLines true rest else none
  | false, text => some text
  | true, [] => some []

/-- Blanks, comments and line ends. -/
def lines : Scan Unit := fun text => (behindLines false text).map ((), ·)

end Scan

open Scan

/-- A character of a key without quotes. -/
def isBare (c : Char) : Bool := c.isAlphanum || c == '_' || c == '-'

/-- One part of a key. -/
def simpleKey : Scan String := do
  blanks
  let key ← of fun text =>
    match text with
    | '"' :: rest => basicText rest
    | '\'' :: rest => literalText rest
    | _ =>
      let bare := text.takeWhile isBare
      if bare.isEmpty then none else some (bare, text.dropWhile isBare)
  blanks
  return String.ofList key

/-- The parts of a key behind the first one. Fuel bounds their number. -/
def keyParts : Nat → Scan (List String)
  | 0 => return []
  | fuel + 1 => do
    if ← at? '.' then
      char '.'
      let part ← simpleKey
      return part :: (← keyParts fuel)
    else return []

/-- Keys have fewer parts than this, and values nest less deep. -/
def depthLimit : Nat := 80

/-- A key: the path of its table, and the last part. -/
def dottedKey : Scan (List String × String) := do
  let first ← simpleKey
  let more ← keyParts depthLimit
  if depthLimit ≤ more.length + 1 then failure
  match (first :: more).reverse with
  | last :: path => return (path.reverse, last)
  | [] => failure

/-- The items of an array behind its opening bracket. Fuel bounds their number. -/
def arrayItems (value : Scan Item) : Nat → Scan (List Item)
  | 0 => failure
  | fuel + 1 => do
    lines
    if ← at? ']' then
      char ']'
      return []
    let item ← value
    lines
    if ← at? ',' then
      char ','
      return item :: (← arrayItems value fuel)
    char ']'
    return [item]

/-- The entries of a table in braces behind the opening one, at least one. Fuel bounds their
number. -/
def bracedEntries (value : Scan Item) : Nat → Scan (List (List String × String × Item))
  | 0 => failure
  | fuel + 1 => do
    let (path, key) ← dottedKey
    char '='
    blanks
    let item ← value
    blanks
    if ← at? ',' then
      char ','
      return (path, key, item) :: (← bracedEntries value fuel)
    char '}'
    return [(path, key, item)]

def scalar : Scan Item := do
  match ← get with
  | '"' :: _ | '\'' :: _ => return .string (String.ofList (← of quotedText?))
  | 't' :: _ => word "true"; return .bool true
  | 'f' :: _ => word "false"; return .bool false
  | text =>
    match time? text with
    | some rest => set rest; return .time
    | none => of number

/-- A value inside which others nest at most this deep. -/
def value : Nat → Scan Item
  | 0 => do
    if (← at? '[') || (← at? '{') then failure
    scalar
  | depth + 1 => do
    let fuel := (← get).length
    if ← at? '[' then
      char '['
      return .array (← arrayItems (value depth) fuel)
    if ← at? '{' then
      char '{'
      blanks
      if ← at? '}' then
        char '}'
        return .inline .header []
      let pairs ← bracedEntries (value depth) fuel
      match inlineEntries pairs [] with
      | some entries => return .inline .header entries
      | none => failure
    scalar

/-- One line: a header, a key with its value, or nothing. -/
def line (builder : Builder) : Scan Builder := do
  blanks
  let next ←
    match ← get with
    | '[' :: '[' :: rest => do
      set rest
      let (path, key) ← dottedKey
      word "]]"
      (builder.openRepeated path key : Option Builder)
    | '[' :: rest => do
      set rest
      let (path, key) ← dottedKey
      char ']'
      (builder.openTable path key : Option Builder)
    | [] | '#' :: _ | '\n' :: _ | '\r' :: _ => pure builder
    | _ => do
      let (path, key) ← dottedKey
      char '='
      blanks
      let item ← value (depthLimit - 1)
      (builder.addEntry path key item : Option Builder)
  lineEnd
  return next

/-- The lines of a document. Fuel bounds their number. -/
def document : Nat → Builder → Scan Builder
  | 0, builder => return builder
  | fuel + 1, builder => do
    if (← get).isEmpty then return builder
    else document fuel (← line builder)

/-- The root table of a document; a byte order mark may stand before it. -/
def ofText? (text : String) : Option Entries :=
  let chars :=
    match text.toList with
    | '\ufeff' :: rest => rest
    | all => all
  match (document chars.length {}).run chars with
  | some (builder, []) => builder.close
  | _ => none

end NativeThunks.Toml
