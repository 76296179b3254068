import NativeThunks.Json.Number

/-! From text to the tree of a JSON document. -/
namespace NativeThunks.Json

/-- The characters between tokens. -/
def isSpace (c : Char) : Bool := c == ' ' || c == '\n' || c == '\t' || c == '\r'

/-- The text from its first token on. -/
def dropSpace (text : List Char) : List Char := text.dropWhile isSpace

def hexDigit? (c : Char) : Option Nat :=
  if '0' ≤ c ∧ c ≤ '9' then some (c.toNat - '0'.toNat)
  else if 'a' ≤ c ∧ c ≤ 'f' then some (10 + (c.toNat - 'a'.toNat))
  else if 'A' ≤ c ∧ c ≤ 'F' then some (10 + (c.toNat - 'A'.toNat))
  else none

def hexUnit? (a b c d : Char) : Option Nat := do
  let a ← hexDigit? a
  let b ← hexDigit? b
  let c ← hexDigit? c
  let d ← hexDigit? d
  return ((a * 16 + b) * 16 + c) * 16 + d

/-- The fault of a numbered character with fewer than four characters behind it: the text ends,
unless what is left still takes four bytes. -/
def shortUnit (rest : List Char) : SyntaxFault :=
  if 4 ≤ rest.foldl (fun size c => size + c.utf8Size) 0 then .invalidEscape else .endInString

/-- The character of a one-letter escape. -/
def escaped? : Char → Option Char
  | '"' => some '"'
  | '\\' => some '\\'
  | '/' => some '/'
  | 'b' => some '\x08'
  | 'f' => some '\x0c'
  | 'n' => some '\n'
  | 'r' => some '\r'
  | 't' => some '\t'
  | _ => none

/-- Whether a unit is the first half of a surrogate pair. -/
def isLeading (unit : Nat) : Bool := 0xd800 ≤ unit && unit ≤ 0xdbff

/-- Whether a unit is the second half of a surrogate pair. -/
def isTrailing (unit : Nat) : Bool := 0xdc00 ≤ unit && unit ≤ 0xdfff

/-- The character of a surrogate pair. -/
def pairChar (leading trailing : Nat) : Char :=
  Char.ofNat ((leading - 0xd800) * 0x400 + (trailing - 0xdc00) + 0x10000)

/-- The text of a quote behind its opening mark. Surrogates come in pairs. -/
def decodeQuote : List Char → Except SyntaxFault (List Char)
  | [] => .error .endInString
  | '"' :: _ => .ok []
  | '\\' :: 'u' :: a :: b :: c :: d :: rest =>
    match hexUnit? a b c d with
    | none => .error .invalidEscape
    | some unit =>
      if isTrailing unit then .error .loneSurrogate
      else if isLeading unit then
        match rest with
        | '\\' :: 'u' :: e :: f :: g :: h :: rest =>
          match hexUnit? e f g h with
          | none => .error .invalidEscape
          | some second =>
            if isTrailing second then (decodeQuote rest).map (pairChar unit second :: ·)
            else .error .loneSurrogate
        | '\\' :: 'u' :: rest => .error (shortUnit rest)
        | ['\\'] => .error .endInString
        | [] => .error .endInString
        | _ => .error .endOfSurrogate
      else (decodeQuote rest).map (Char.ofNat unit :: ·)
  | '\\' :: 'u' :: rest => .error (shortUnit rest)
  | ['\\'] => .error .endInString
  | '\\' :: c :: rest =>
    match escaped? c with
    | some e => (decodeQuote rest).map (e :: ·)
    | none => .error .invalidEscape
  | c :: rest =>
    if c < ' ' then .error .controlCharacter else (decodeQuote rest).map (c :: ·)

/-- The text behind a quote, from behind its opening mark on. Escapes are checked for their form
alone. -/
def skipQuote : List Char → Except SyntaxFault (List Char)
  | [] => .error .endInString
  | '"' :: rest => .ok rest
  | '\\' :: 'u' :: a :: b :: c :: d :: rest =>
    match hexUnit? a b c d with
    | none => .error .invalidEscape
    | some _ => skipQuote rest
  | '\\' :: 'u' :: rest => .error (shortUnit rest)
  | ['\\'] => .error .endInString
  | '\\' :: c :: rest =>
    match escaped? c with
    | some _ => skipQuote rest
    | none => .error .invalidEscape
  | c :: rest => if c < ' ' then .error .controlCharacter else skipQuote rest

/-- A quote behind its opening mark and the text behind it, or the faults for decoding and for
skipping it. -/
def takeQuote (text : List Char) : Except (SyntaxFault × SyntaxFault) (Quote × List Char) :=
  match skipQuote text with
  | .ok rest => .ok ((decodeQuote text).map String.ofList, rest)
  | .error skipping =>
    match decodeQuote text with
    | .error decoding => .error (decoding, skipping)
    | .ok _ => .error (skipping, skipping)

/-- The rest of a word value behind its first letter. -/
def readWord (first : Char) (value : Node) : List Char → List Char → Node × List Char
  | [], rest => (value, rest)
  | _ :: _, [] => (.broken (some first) .endInValue .endInValue, [])
  | expected :: more, c :: rest =>
    if c = expected then readWord first value more rest
    else (.broken (some first) .expectedIdent .expectedIdent, [])

/-- A number behind its sign. -/
def readNumber (first : Char) (negative : Bool) (text : List Char) : Node × List Char :=
  match takeNumber text with
  | .ok (number, rest) => (.number (number.value negative), rest)
  | .error (decoding, skipping) => (.broken (some first) decoding skipping, [])

mutual

/-- The value at the front of the text and the text behind it; nothing is left behind a fault. Fuel
bounds the number of steps. -/
def readValue : Nat → List Char → Node × List Char
  | 0, _ => (.broken none .endInValue .endInValue, [])
  | fuel + 1, text =>
    match dropSpace text with
    | [] => (.broken none .endInValue .endInValue, [])
    | 'n' :: rest => readWord 'n' .null ['u', 'l', 'l'] rest
    | 't' :: rest => readWord 't' (.bool true) ['r', 'u', 'e'] rest
    | 'f' :: rest => readWord 'f' (.bool false) ['a', 'l', 's', 'e'] rest
    | '"' :: rest =>
      match takeQuote rest with
      | .ok (quote, rest) => (.string quote, rest)
      | .error (decoding, skipping) => (.broken (some '"') decoding skipping, [])
    | '[' :: rest =>
      let (items, stop, rest) := readItems fuel true rest
      (.list items stop, rest)
    | '{' :: rest =>
      let (fields, stop, rest) := readFields fuel true rest
      (.object fields stop, rest)
    | '-' :: rest => readNumber '-' true rest
    | c :: rest =>
      if c.isDigit then readNumber c false (c :: rest)
      else (.broken (some c) .expectedValue .expectedValue, [])

/-- The items of a list up to its end, and the text behind it. -/
def readItems : Nat → (first : Bool) → List Char → List Node × ListStop × List Char
  | 0, _, _ => ([], .textEnds, [])
  | fuel + 1, first, text =>
    match dropSpace text with
    | [] => ([], .textEnds, [])
    | ']' :: rest => ([], .closed, rest)
    | c :: rest =>
      if first then
        let (item, rest) := readValue fuel (c :: rest)
        let (items, stop, rest) := readItems fuel false rest
        (item :: items, stop, rest)
      else if c = ',' then
        match dropSpace rest with
        | [] => ([], .commaThenEnd, [])
        | ']' :: _ => ([], .commaThenClose, [])
        | c :: rest =>
          let (item, rest) := readValue fuel (c :: rest)
          let (items, stop, rest) := readItems fuel false rest
          (item :: items, stop, rest)
      else ([], .noComma, [])

/-- The fields of an object up to its end, and the text behind it. -/
def readFields : Nat → (first : Bool) → List Char →
    List (Quote × Node) × ObjectStop × List Char
  | 0, _, _ => ([], .textEnds, [])
  | fuel + 1, first, text =>
    match dropSpace text with
    | [] => ([], .textEnds, [])
    | '}' :: rest => ([], .closed, rest)
    | c :: rest =>
      if first then readField fuel (c :: rest)
      else if c = ',' then
        match dropSpace rest with
        | [] => ([], .commaThenEnd, [])
        | '}' :: _ => ([], .commaThenClose, [])
        | c :: rest => readField fuel (c :: rest)
      else ([], .noComma, [])

/-- One field from its key on, and the fields behind it. -/
def readField : Nat → List Char → List (Quote × Node) × ObjectStop × List Char
  | 0, _ => ([], .textEnds, [])
  | fuel + 1, text =>
    match text with
    | '"' :: rest =>
      match takeQuote rest with
      | .error (decoding, skipping) => ([], .brokenKey decoding skipping, [])
      | .ok (key, rest) =>
        match dropSpace rest with
        | [] => ([], .keyThenEnd key, [])
        | ':' :: rest =>
          let (value, rest) := readValue fuel rest
          let (fields, stop, rest) := readFields fuel false rest
          ((key, value) :: fields, stop, rest)
        | _ => ([], .keyThenOther key, [])
    | _ => ([], .noKey (readValue fuel text).1, [])

end

/-- A document: its value, and whether anything but space follows it. -/
structure Document where
  root : Node
  trailing : Bool

/-- Reads a document. Each step takes a character or looks once at the end, so the fuel is never
used up. -/
def Document.ofText (text : String) : Document :=
  let chars := text.toList
  let (root, rest) := readValue (3 * chars.length + 3) chars
  ⟨root, !(dropSpace rest).isEmpty⟩

end NativeThunks.Json
