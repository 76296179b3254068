import NativeThunks.Json.Node

/-! JSON values that the library writes, and their text with one item or field to a line. -/
namespace NativeThunks.Json

/-- A value. Fields keep their order. -/
inductive Value where
  | null
  | bool (value : Bool)
  | whole (value : Nat)
  | string (text : String)
  | list (items : List Value)
  | object (fields : List (String × Value))

def Value.option {α : Type} (encode : α → Value) : Option α → Value
  | none => .null
  | some value => encode value

mutual

/-- The tree that a reader makes of a value's text. -/
def Value.toNode : Value → Node
  | .null => .null
  | .bool value => .bool value
  | .whole value => .number (.ok (.whole value))
  | .string text => .string (.ok text)
  | .list items => .list (itemsToNodes items) .closed
  | .object fields => .object (fieldsToNodes fields) .closed

/-- The trees of items. -/
def itemsToNodes : List Value → List Node
  | [] => []
  | item :: rest => item.toNode :: itemsToNodes rest

/-- The trees of fields. -/
def fieldsToNodes : List (String × Value) → List (Quote × Node)
  | [] => []
  | (key, value) :: rest => (.ok key, value.toNode) :: fieldsToNodes rest

end

def hexDigit (n : Nat) : Char := if n < 10 then Char.ofNat (48 + n) else Char.ofNat (87 + n)

/-- How one character stands in quotes: quotes, backslashes and control characters are escaped. -/
def escapeChar (c : Char) : List Char :=
  if c = '"' then ['\\', '"']
  else if c = '\\' then ['\\', '\\']
  else if c = '\x08' then ['\\', 'b']
  else if c = '\x0c' then ['\\', 'f']
  else if c = '\n' then ['\\', 'n']
  else if c = '\r' then ['\\', 'r']
  else if c = '\t' then ['\\', 't']
  else if c < ' ' then ['\\', 'u', '0', '0', hexDigit (c.toNat / 16), hexDigit (c.toNat % 16)]
  else [c]

/-- A text in quotes. -/
def quoteChars (text : String) : List Char := '"' :: (text.toList.flatMap escapeChar ++ ['"'])

def newLine (depth : Nat) : List Char := '\n' :: List.replicate (2 * depth) ' '

mutual

/-- The text of a value at a depth. Empty lists and objects take no line. -/
def Value.chars (depth : Nat) : Value → List Char
  | .null => ['n', 'u', 'l', 'l']
  | .bool true => ['t', 'r', 'u', 'e']
  | .bool false => ['f', 'a', 'l', 's', 'e']
  | .whole value => Nat.toDigits 10 value
  | .string text => quoteChars text
  | .list [] => ['[', ']']
  | .list (item :: rest) =>
    '[' :: (newLine (depth + 1) ++ item.chars (depth + 1) ++
      (itemChars (depth + 1) rest ++ (newLine depth ++ [']'])))
  | .object [] => ['{', '}']
  | .object ((key, value) :: rest) =>
    '{' :: (newLine (depth + 1) ++ quoteChars key ++ [':', ' '] ++ value.chars (depth + 1) ++
      (fieldChars (depth + 1) rest ++ (newLine depth ++ ['}'])))

/-- The text of the items behind the first one. -/
def itemChars (depth : Nat) : List Value → List Char
  | [] => []
  | item :: rest => ',' :: (newLine depth ++ item.chars depth ++ itemChars depth rest)

/-- The text of the fields behind the first one. -/
def fieldChars (depth : Nat) : List (String × Value) → List Char
  | [] => []
  | (key, value) :: rest =>
    ',' :: (newLine depth ++ quoteChars key ++ [':', ' '] ++ value.chars depth ++
      fieldChars depth rest)

end

def Value.render (value : Value) : String := String.ofList (value.chars 0)

end NativeThunks.Json
