/-! Text as UTF-8 bytes. Reading never fails: every longest run of bytes that could begin a
character and does not go on to be one is replaced by a single replacement character. -/
namespace NativeThunks.Text

def utf8Bytes (text : String) : List UInt8 := text.toList.flatMap String.utf8EncodeChar

/-- A character whose first bytes have been read. -/
structure OpenCharacter where
  /-- The bits read so far. -/
  bits : Nat
  /-- The bounds of the next byte. -/
  least : UInt8 := 0x80
  greatest : UInt8 := 0xbf
  /-- How many bytes follow the next one. -/
  more : Nat
deriving DecidableEq, Repr

/-- The character that stands for bytes that are no text. -/
def replacement : Char := '\ufffd'

/-- What a byte begins: a character of its own, a longer one, or nothing. The bounds of a second
byte leave out overlong forms, surrogates, and points beyond the last one. -/
def firstByte (byte : UInt8) : List Char × Option OpenCharacter :=
  let bits (base : UInt8) : Nat := (byte - base).toNat
  if byte < 0x80 then ([Char.ofNat byte.toNat], none)
  else if byte < 0xc2 then ([replacement], none)
  else if byte < 0xe0 then ([], some { bits := bits 0xc0, more := 0 })
  else if byte = 0xe0 then ([], some { bits := 0, least := 0xa0, more := 1 })
  else if byte = 0xed then ([], some { bits := bits 0xe0, greatest := 0x9f, more := 1 })
  else if byte < 0xf0 then ([], some { bits := bits 0xe0, more := 1 })
  else if byte = 0xf0 then ([], some { bits := 0, least := 0x90, more := 2 })
  else if byte < 0xf4 then ([], some { bits := bits 0xf0, more := 2 })
  else if byte = 0xf4 then ([], some { bits := bits 0xf0, greatest := 0x8f, more := 2 })
  else ([replacement], none)

/-- One byte: it continues the open character, or gives it up and begins anew. -/
def nextByte (state : Option OpenCharacter) (byte : UInt8) : List Char × Option OpenCharacter :=
  match state with
  | none => firstByte byte
  | some character =>
    if character.least ≤ byte ∧ byte ≤ character.greatest then
      let bits := 64 * character.bits + (byte - 0x80).toNat
      match character.more with
      | 0 => ([Char.ofNat bits], none)
      | more + 1 => ([], some { bits := bits, more := more })
    else
      let (found, state) := firstByte byte
      (replacement :: found, state)

/-- The characters of bytes, behind an open character. -/
def utf8Chars : Option OpenCharacter → List UInt8 → List Char
  | none, [] => []
  | some _, [] => [replacement]
  | state, byte :: rest => (nextByte state byte).1 ++ utf8Chars (nextByte state byte).2 rest

def ofUtf8 (bytes : List UInt8) : String := String.ofList (utf8Chars none bytes)

example : ofUtf8 [0x61, 0xe2, 0x82, 0xac, 0xf0, 0x9f] = "a€\ufffd" := by decide
example : ofUtf8 [0xed, 0xa0, 0x80] = "\ufffd\ufffd\ufffd" := by decide

end NativeThunks.Text
