import NativeThunks.Decimal.Shortest
import NativeThunks.Text.Quoted

/-! JSON documents as trees that keep the place of the first fault. A reader of the tree meets its
parts in document order, so which fault it reports depends on how far it looks: a value that nobody
asks for is only checked for its form, and a value that is asked for is decoded as well. -/
namespace NativeThunks.Json
open NativeThunks.Decimal NativeThunks.Text

/-- The ways in which a text is no JSON document. -/
inductive SyntaxFault where
  | endInValue
  | endInObject
  | endInList
  | endInString
  | keyMustBeString
  | trailingCharacters
  | trailingComma
  | expectedValue
  | expectedColon
  | expectedObjectCommaOrEnd
  | expectedListCommaOrEnd
  | expectedIdent
  | invalidNumber
  | numberOutOfRange
  | invalidEscape
  | controlCharacter
  | loneSurrogate
  | endOfSurrogate
  | tooDeep
deriving DecidableEq, Repr

namespace SyntaxFault

/-- Whether the text ends too early. -/
def isEnd : SyntaxFault → Bool
  | .endInValue | .endInObject | .endInList | .endInString => true
  | _ => false

def message : SyntaxFault → String
  | .endInValue => "EOF while parsing a value"
  | .endInObject => "EOF while parsing an object"
  | .endInList => "EOF while parsing a list"
  | .endInString => "EOF while parsing a string"
  | .keyMustBeString => "key must be a string"
  | .trailingCharacters => "trailing characters"
  | .trailingComma => "trailing comma"
  | .expectedValue => "expected value"
  | .expectedColon => "expected `:`"
  | .expectedObjectCommaOrEnd => "expected `,` or `\x7d`"
  | .expectedListCommaOrEnd => "expected `,` or `]`"
  | .expectedIdent => "expected ident"
  | .invalidNumber => "invalid number"
  | .numberOutOfRange => "number out of range"
  | .invalidEscape => "invalid escape"
  | .controlCharacter => "control character (\\u0000-\\u001F) found while parsing a string"
  | .loneSurrogate => "lone leading surrogate in hex escape"
  | .endOfSurrogate => "unexpected end of hex escape"
  | .tooDeep => "recursion limit exceeded"

end SyntaxFault

/-- A decoded number. Whole numbers that fit 64 bits stay exact. -/
inductive Number where
  | whole (value : Nat)
  | negative (magnitude : Nat)
  | float (below : Bool) (value : Binary64)
deriving DecidableEq, Repr

def Number.describe : Number → String
  | .whole value => "integer `" ++ toString value ++ "`"
  | .negative magnitude => "integer `-" ++ toString magnitude ++ "`"
  | .float below value => "floating point `" ++ scientific below value ++ "`"

/-- A piece of text in quotes that can be skipped; decoding it may still fail. -/
abbrev Quote := Except SyntaxFault String

/-- How a list ends behind its items. -/
inductive ListStop where
  | closed
  /-- The text ends. -/
  | textEnds
  /-- Something other than a comma or the closing bracket follows an item. -/
  | noComma
  /-- The closing bracket follows a comma. -/
  | commaThenClose
  /-- The text ends behind a comma. -/
  | commaThenEnd
deriving DecidableEq, Repr

mutual

/-- A value as far as the text can be read. -/
inductive Node where
  | null
  | bool (value : Bool)
  | number (value : Except SyntaxFault Number)
  | string (value : Quote)
  | list (items : List Node) (stop : ListStop)
  | object (fields : List (Quote × Node)) (stop : ObjectStop)
  /-- Text that is no value: its first character, the fault for a reader that decodes it, and the
  fault for one that skips it. -/
  | broken (first : Option Char) (decoding skipping : SyntaxFault)

/-- How an object ends behind its fields. -/
inductive ObjectStop where
  | closed
  /-- The text ends. -/
  | textEnds
  /-- Something other than a comma or the closing brace follows a field. -/
  | noComma
  /-- Something other than a text stands where a key belongs. -/
  | noKey (found : Node)
  /-- The closing brace follows a comma. -/
  | commaThenClose
  /-- The text ends behind a comma. -/
  | commaThenEnd
  /-- A key that cannot be read, with the faults for decoding and for skipping it. -/
  | brokenKey (decoding skipping : SyntaxFault)
  /-- The text ends behind a key. -/
  | keyThenEnd (key : Quote)
  /-- Something other than a colon follows a key. -/
  | keyThenOther (key : Quote)

end

/-- The fault of a list for a reader that decodes it, met when it asks for a further item. -/
def ListStop.decoding : ListStop → Option SyntaxFault
  | .closed => none
  | .textEnds => some .endInList
  | .noComma => some .expectedListCommaOrEnd
  | .commaThenClose => some .trailingComma
  | .commaThenEnd => some .endInValue

/-- The fault of a list for a reader that skips it. -/
def ListStop.skipping : ListStop → Option SyntaxFault
  | .commaThenClose => some .expectedValue
  | stop => stop.decoding

/-- The fault of a list for a reader that wants no further item. -/
def ListStop.finishing : ListStop → Option SyntaxFault
  | .closed => none
  | .textEnds => some .endInList
  | .commaThenClose => some .trailingComma
  | .noComma | .commaThenEnd => some .trailingCharacters

/-- The fault of an object for a reader that decodes it, behind its fields and any last key. -/
def ObjectStop.decoding : ObjectStop → Option SyntaxFault
  | .closed => none
  | .textEnds | .keyThenEnd _ => some .endInObject
  | .noComma => some .expectedObjectCommaOrEnd
  | .noKey _ => some .keyMustBeString
  | .commaThenClose => some .trailingComma
  | .commaThenEnd => some .endInValue
  | .brokenKey decoding _ => some decoding
  | .keyThenOther _ => some .expectedColon

/-- The fault of an object for a reader that skips it. -/
def ObjectStop.skipping : ObjectStop → Option SyntaxFault
  | .commaThenClose => some .keyMustBeString
  | .commaThenEnd => some .endInObject
  | .brokenKey _ skipping => some skipping
  | stop => stop.decoding

/-- The key that stands without a value at the end of an object. -/
def ObjectStop.lastKey? : ObjectStop → Option Quote
  | .keyThenEnd key | .keyThenOther key => some key
  | _ => none

mutual

/-- The first fault for a reader that skips the value. -/
def Node.skipFault? : Node → Option SyntaxFault
  | .null | .bool _ | .number _ | .string _ => none
  | .list items stop => (skipFaultOfItems? items).or stop.skipping
  | .object fields stop => (skipFaultOfFields? fields).or stop.skipping
  | .broken _ _ skipping => some skipping

/-- The first fault among items. -/
def skipFaultOfItems? : List Node → Option SyntaxFault
  | [] => none
  | item :: rest => item.skipFault?.or (skipFaultOfItems? rest)

/-- The first fault among fields. -/
def skipFaultOfFields? : List (Quote × Node) → Option SyntaxFault
  | [] => none
  | (_, value) :: rest => value.skipFault?.or (skipFaultOfFields? rest)

end

/-- Values nest at most this deep where they are decoded. -/
def depthLimit : Nat := 128

/-- The fault of a quote, if decoding it fails. -/
def Quote.fault? : Quote → Option SyntaxFault
  | .ok _ => none
  | .error fault => some fault

mutual

/-- The first fault for a reader that decodes the value with everything in it, inside the given
number of lists and objects. -/
def Node.decodeFault? (enclosing : Nat) : Node → Option SyntaxFault
  | .null | .bool _ => none
  | .number (.ok _) => none
  | .number (.error fault) => some fault
  | .string quote => Quote.fault? quote
  | .list items stop =>
    if depthLimit ≤ enclosing + 1 then some .tooDeep
    else (decodeFaultOfItems? (enclosing + 1) items).or stop.decoding
  | .object fields stop =>
    if depthLimit ≤ enclosing + 1 then some .tooDeep
    else
      (decodeFaultOfFields? (enclosing + 1) fields).or
        ((stop.lastKey?.bind Quote.fault?).or stop.decoding)
  | .broken _ decoding _ => some decoding

/-- The first fault among items. -/
def decodeFaultOfItems? (enclosing : Nat) : List Node → Option SyntaxFault
  | [] => none
  | item :: rest => (item.decodeFault? enclosing).or (decodeFaultOfItems? enclosing rest)

/-- The first fault among fields; a key comes before its value. -/
def decodeFaultOfFields? (enclosing : Nat) : List (Quote × Node) → Option SyntaxFault
  | [] => none
  | (key, value) :: rest =>
    ((Quote.fault? key).or (value.decodeFault? enclosing)).or (decodeFaultOfFields? enclosing rest)

end

/-- The wording of a value in messages. Lists and objects are not looked into. -/
def Node.describe : Node → Except SyntaxFault String
  | .null => .ok "null"
  | .bool value => .ok ("boolean `" ++ (if value then "true" else "false") ++ "`")
  | .number value => value.map Number.describe
  | .string quote => quote.map fun text => "string " ++ quoted text
  | .list _ _ => .ok "sequence"
  | .object _ _ => .ok "map"
  | .broken _ decoding _ => .error decoding

end NativeThunks.Json
