import NativeThunks.Text.Utf8
import Mathlib.Algebra.Group.Nat.Defs
import Mathlib.Data.List.Infix
import Mathlib.Data.Nat.Find

/-! Reading bytes undoes writing a text. The reader is a machine that takes one byte at a time; told
here is which characters an open one may still become, and that the bytes of just these complete it.
So a text is read back from its bytes. Where bytes are no text, the longest text that they begin with
is read unchanged, and a replacement stands right behind it. -/
namespace NativeThunks.Utf8Reading
open Text

variable {bytes rest : List UInt8} {byte : UInt8} {point count : Nat} {state : OpenCharacter}

/-- Bytes that are some text, as the language itself has it. -/
def IsText (bytes : List UInt8) : Prop := ByteArray.IsValidUTF8 ⟨bytes.toArray⟩

/-- A text that the bytes begin with, and no longer one is. -/
structure LongestText (front : String) (bytes : List UInt8) : Prop where
  begins : utf8Bytes front <+: bytes
  longest : ∀ other, utf8Bytes other <+: bytes → utf8Bytes other <+: utf8Bytes front

/-- A point needs so many bytes behind the first one. -/
def Needs : Nat → Nat → Prop
  | 0, point => point < 0x80
  | 1, point => 0x80 ≤ point ∧ point < 0x800
  | 2, point => 0x800 ≤ point ∧ point < 0x10000
  | 3, point => 0x10000 ≤ point ∧ point < 0x110000
  | _, _ => False

/-- What the number of a first byte has beside the digit in it, by the number of bytes behind. -/
def leadMark : Nat → Nat
  | 0 => 0
  | 1 => 0xc0
  | 2 => 0xe0
  | _ => 0xf0

/-- The last bytes of a character: so many digits of its point to base 64, the highest one first. -/
def tailBytes : Nat → Nat → List UInt8
  | 0, _ => []
  | count + 1, point => UInt8.ofNat (point / 64 ^ count % 64 + 0x80) :: tailBytes count point

/-- An open character may become the one at a point. -/
structure Awaits (state : OpenCharacter) (point : Nat) : Prop where
  bits : point / 64 ^ (state.more + 1) = state.bits
  least : state.least.toNat ≤ point / 64 ^ state.more % 64 + 0x80
  greatest : point / 64 ^ state.more % 64 + 0x80 ≤ state.greatest.toNat

/-- What the first of several bytes opens, by its number. The second byte is bounded where the first
one alone would admit a point that needs fewer bytes, is a surrogate, or lies beyond the last one. -/
inductive Opens : Nat → OpenCharacter → Prop where
  | two {number} (least : 0xc2 ≤ number) (below : number < 0xe0) :
      Opens number { bits := number - 0xc0, more := 0 }
  | leastThree : Opens 0xe0 { bits := 0, least := 0xa0, more := 1 }
  | beforeSurrogates : Opens 0xed { bits := 0xd, greatest := 0x9f, more := 1 }
  | three {number} (least : 0xe0 < number) (below : number < 0xf0) (other : number ≠ 0xed) :
      Opens number { bits := number - 0xe0, more := 1 }
  | leastFour : Opens 0xf0 { bits := 0, least := 0x90, more := 2 }
  | four {number} (least : 0xf0 < number) (below : number < 0xf4) :
      Opens number { bits := number - 0xf0, more := 2 }
  | greatestFour : Opens 0xf4 { bits := 4, greatest := 0x8f, more := 2 }

/-- The bounds of an open character are within those of a digit. -/
structure Proper (state : OpenCharacter) : Prop where
  least : 0x80 ≤ state.least.toNat
  greatest : state.greatest.toNat ≤ 0xbf

private theorem exists_needs (c : Char) : ∃ count, Needs count c.toNat := by
  have top : c.toNat < 0x110000 := by
    rcases c.valid with low | high
    · exact Nat.lt_trans low (by decide)
    · exact high.2
  by_cases one : c.toNat < 0x80
  · exact ⟨0, one⟩
  by_cases two : c.toNat < 0x800
  · exact ⟨1, Nat.not_lt.mp one, two⟩
  by_cases three : c.toNat < 0x10000
  · exact ⟨2, Nat.not_lt.mp two, three⟩
  · exact ⟨3, Nat.not_lt.mp three, top⟩

private theorem char_of_valid (valid : point.isValidChar) : ∃ c : Char, c.toNat = point :=
  ⟨Char.ofNat point, congrArg Char.toNat (dif_pos valid)⟩

/-- A first byte with the highest digit, and a byte for each of the others. -/
theorem encode_eq {c : Char} (needs : Needs count c.toNat) : String.utf8EncodeChar c =
    UInt8.ofNat (leadMark count + c.toNat / 64 ^ count) :: tailBytes count c.toNat := by
  unfold String.utf8EncodeChar
  simp only [Char.toNat] at needs ⊢
  generalize c.val.toNat = point at needs ⊢
  match count, needs with
  | 0, below =>
    rw [if_pos (Nat.le_of_lt_succ below)]
    simp [leadMark, tailBytes]
  | 1, ⟨least, below⟩ =>
    have digit : point / 64 % 32 + 0xc0 = 0xc0 + point / 64 := by omega
    rw [if_neg (by omega), if_pos (by omega), digit]
    simp [leadMark, tailBytes]
  | 2, ⟨least, below⟩ =>
    have digit : point / 4096 % 16 + 0xe0 = 0xe0 + point / 4096 := by omega
    rw [if_neg (by omega), if_neg (by omega), if_pos (by omega), digit]
    simp [leadMark, tailBytes]
  | 3, ⟨least, below⟩ =>
    have digit : point / 262144 % 8 + 0xf0 = 0xf0 + point / 262144 := by omega
    rw [if_neg (by omega), if_neg (by omega), if_neg (by omega), digit]
    simp [leadMark, tailBytes]

private theorem lead_lt (needs : Needs count point) :
    leadMark count + point / 64 ^ count < UInt8.size := by
  match count, needs with
  | 0, below =>
    simp only [Needs] at below
    simp only [leadMark, UInt8.size]
    omega
  | 1, ⟨least, below⟩ =>
    simp only [leadMark, UInt8.size]
    omega
  | 2, ⟨least, below⟩ =>
    simp only [leadMark, UInt8.size]
    omega
  | 3, ⟨least, below⟩ =>
    simp only [leadMark, UInt8.size]
    omega

/-- What a byte of this number begins. -/
def opening (number : Nat) : List Char × Option OpenCharacter :=
  if number < 0x80 then ([Char.ofNat number], none)
  else if number < 0xc2 then ([replacement], none)
  else if number < 0xe0 then ([], some { bits := number - 0xc0, more := 0 })
  else if number = 0xe0 then ([], some { bits := 0, least := 0xa0, more := 1 })
  else if number = 0xed then ([], some { bits := number - 0xe0, greatest := 0x9f, more := 1 })
  else if number < 0xf0 then ([], some { bits := number - 0xe0, more := 1 })
  else if number = 0xf0 then ([], some { bits := 0, least := 0x90, more := 2 })
  else if number < 0xf4 then ([], some { bits := number - 0xf0, more := 2 })
  else if number = 0xf4 then ([], some { bits := number - 0xf0, greatest := 0x8f, more := 2 })
  else ([replacement], none)

private theorem firstByte_eq (byte : UInt8) : firstByte byte = opening byte.toNat := by
  have all : ∀ number < 256, firstByte (UInt8.ofNat number) = opening number := by decide +kernel
  simpa using all byte.toNat byte.toNat_lt

private theorem opening_of_opens {number : Nat} (opens : Opens number state) :
    opening number = ([], some state) := by
  cases opens with
  | two least below => rw [opening, if_neg (by omega), if_neg (by omega), if_pos below]
  | leastThree | beforeSurrogates | leastFour | greatestFour => rfl
  | three least below other =>
    rw [opening, if_neg (by omega), if_neg (by omega), if_neg (by omega), if_neg (by omega),
      if_neg other, if_pos below]
  | four least below =>
    rw [opening, if_neg (by omega), if_neg (by omega), if_neg (by omega), if_neg (by omega),
      if_neg (by omega), if_neg (by omega), if_neg (by omega), if_pos below]

/-- A first byte is a character of its own, is replaced, or opens a character. -/
theorem opening_cases (number : Nat) :
    (number < 0x80 ∧ opening number = ([Char.ofNat number], none)) ∨
      opening number = ([replacement], none) ∨
        ∃ state, Opens number state ∧ opening number = ([], some state) := by
  have opened {state : OpenCharacter} (opens : Opens number state) :
      ∃ state, Opens number state ∧ opening number = ([], some state) :=
    ⟨state, opens, opening_of_opens opens⟩
  by_cases ascii : number < 0x80
  · exact .inl ⟨ascii, if_pos ascii⟩
  by_cases stray : number < 0xc2 ∨ 0xf4 < number
  · refine .inr (.inl ?_)
    rcases stray with low | high
    · rw [opening, if_neg ascii, if_pos low]
    · rw [opening, if_neg ascii, if_neg (by omega), if_neg (by omega), if_neg (by omega),
        if_neg (by omega), if_neg (by omega), if_neg (by omega), if_neg (by omega),
        if_neg (by omega)]
  refine .inr (.inr ?_)
  by_cases two : number < 0xe0
  · exact opened (.two (by omega) two)
  by_cases bounded : number = 0xe0 ∨ number = 0xed ∨ number = 0xf0 ∨ number = 0xf4
  · rcases bounded with rfl | rfl | rfl | rfl
    · exact opened .leastThree
    · exact opened .beforeSurrogates
    · exact opened .leastFour
    · exact opened .greatestFour
  by_cases three : number < 0xf0
  · exact opened (.three (by omega) three (by omega))
  · exact opened (.four (by omega) (by omega))

/-- The first byte of a character opens what may become this character. -/
theorem opens_of_needs (valid : point.isValidChar) (needs : Needs (count + 1) point) :
    ∃ state, Opens (leadMark (count + 1) + point / 64 ^ (count + 1)) state ∧
      state.more = count ∧ Awaits state point := by
  match count, needs with
  | 0, ⟨least, below⟩ =>
    refine ⟨_, .two ?_ ?_, rfl, ?_, ?_, ?_⟩ <;> simp [leadMark] <;> omega
  | 1, ⟨least, below⟩ =>
    by_cases low : point < 0x1000
    · have digit : point / 64 ^ 2 = 0 := by omega
      rw [digit]
      refine ⟨_, .leastThree, rfl, digit, ?_, ?_⟩ <;> simp only [UInt8.reduceToNat] <;> omega
    by_cases surrogate : point / 64 ^ 2 = 0xd
    · rw [surrogate]
      refine ⟨_, .beforeSurrogates, rfl, surrogate, Nat.le_add_left _ _, ?_⟩
      simp only [UInt8.reduceToNat]
      rcases valid with early | late <;> omega
    · refine ⟨_, .three ?_ ?_ ?_, rfl, ?_, ?_, ?_⟩ <;> simp [leadMark] <;> omega
  | 2, ⟨least, below⟩ =>
    by_cases low : point < 0x40000
    · have digit : point / 64 ^ 3 = 0 := by omega
      rw [digit]
      refine ⟨_, .leastFour, rfl, digit, ?_, ?_⟩ <;> simp only [UInt8.reduceToNat] <;> omega
    by_cases high : 0x100000 ≤ point
    · have digit : point / 64 ^ 3 = 4 := by omega
      rw [digit]
      refine ⟨_, .greatestFour, rfl, digit, Nat.le_add_left _ _, ?_⟩
      simp only [UInt8.reduceToNat]
      omega
    · refine ⟨_, .four ?_ ?_, rfl, ?_, ?_, ?_⟩ <;> simp [leadMark] <;> omega

/-- Whatever an opened character may become is a character with this first byte. -/
theorem needs_of_opens {number : Nat} (opens : Opens number state) (awaited : Awaits state point) :
    point.isValidChar ∧ Needs (state.more + 1) point ∧
      number = leadMark (state.more + 1) + point / 64 ^ (state.more + 1) := by
  obtain ⟨bits, least, greatest⟩ := awaited
  cases opens with
  | two => simp [Needs, leadMark, Nat.isValidChar] at bits ⊢; omega
  | leastThree => simp [Needs, leadMark, Nat.isValidChar] at bits least ⊢; omega
  | beforeSurrogates => simp [Needs, leadMark, Nat.isValidChar] at bits greatest ⊢; omega
  | three => simp [Needs, leadMark, Nat.isValidChar] at bits ⊢; omega
  | leastFour => simp [Needs, leadMark, Nat.isValidChar] at bits least ⊢; omega
  | four => simp [Needs, leadMark, Nat.isValidChar] at bits ⊢; omega
  | greatestFour => simp [Needs, leadMark, Nat.isValidChar] at bits greatest ⊢; omega

private theorem proper_of_bounds (bits more : Nat) : Proper { bits := bits, more := more } := by
  constructor <;> simp

private theorem proper_of_opens {number : Nat} (opens : Opens number state) : Proper state := by
  cases opens <;> constructor <;> simp

/-- What is open behind one more digit of a point. -/
def reached (point more : Nat) : OpenCharacter := { bits := point / 64 ^ (more + 1), more := more }

private theorem awaits_reached (point more : Nat) : Awaits (reached point more) point := by
  have digit : point / 64 ^ more % 64 < 64 := Nat.mod_lt _ (by decide)
  constructor
  · rfl
  · exact Nat.le_add_left _ _
  · exact Nat.add_le_add_right (Nat.le_of_lt_succ digit) 0x80

private theorem digits_next (point more : Nat) :
    64 * (point / 64 ^ (more + 1)) + point / 64 ^ more % 64 = point / 64 ^ more := by
  rw [Nat.pow_succ, ← Nat.div_div_eq_div_mul, Nat.div_add_mod]

private theorem toNat_digit (point more : Nat) :
    (UInt8.ofNat (point / 64 ^ more % 64 + 0x80)).toNat = point / 64 ^ more % 64 + 0x80 := by
  have digit : point / 64 ^ more % 64 < 64 := Nat.mod_lt _ (by decide)
  exact UInt8.toNat_ofNat_of_lt' (Nat.lt_trans (Nat.add_lt_add_right digit 0x80) (by decide))

private theorem digit_of_byte (least : 0x80 ≤ byte.toNat) : (byte - 0x80).toNat = byte.toNat - 0x80 :=
  UInt8.toNat_sub_of_le _ _ (UInt8.le_iff_toNat_le.mpr least)

/-- The next digit of an awaited point continues the character, and the last one completes it. -/
theorem nextByte_digit (awaited : Awaits state point) :
    nextByte (some state) (UInt8.ofNat (point / 64 ^ state.more % 64 + 0x80)) =
      match state.more with
      | 0 => ([Char.ofNat point], none)
      | more + 1 => ([], some (reached point more)) := by
  have number := toNat_digit point state.more
  have within : state.least ≤ UInt8.ofNat (point / 64 ^ state.more % 64 + 0x80) ∧
      UInt8.ofNat (point / 64 ^ state.more % 64 + 0x80) ≤ state.greatest := by
    rw [UInt8.le_iff_toNat_le, UInt8.le_iff_toNat_le, number]
    exact ⟨awaited.least, awaited.greatest⟩
  have digit : (UInt8.ofNat (point / 64 ^ state.more % 64 + 0x80) - 0x80).toNat =
      point / 64 ^ state.more % 64 := by
    rw [digit_of_byte (le_of_le_of_eq (Nat.le_add_left _ _) number.symm), number,
      Nat.add_sub_cancel]
  have bits : 64 * state.bits + point / 64 ^ state.more % 64 = point / 64 ^ state.more := by
    rw [← awaited.bits, digits_next]
  simp only [nextByte, if_pos within, digit, bits]
  cases state.more with
  | zero => simp
  | succ more => rfl

/-- The last bytes of a character complete it. -/
theorem read_tail {c : Char} (awaited : Awaits state c.toNat) :
    utf8Chars (some state) (tailBytes (state.more + 1) c.toNat ++ rest) =
      c :: utf8Chars none rest := by
  have next := nextByte_digit awaited
  generalize size : state.more = more at next ⊢
  induction more generalizing state with
  | zero =>
    simp only [tailBytes, List.cons_append, utf8Chars, next, List.nil_append, Char.ofNat_toNat]
  | succ more ih =>
    rw [tailBytes, List.cons_append, utf8Chars, next]
    exact ih (awaits_reached _ _) rfl (nextByte_digit (awaits_reached _ _))

/-- A byte within the bounds is the next digit of every point with the digits so far. -/
theorem awaits_of_digit {byte : UInt8} (point : Nat) (proper : Proper state)
    (within : state.least ≤ byte ∧ byte ≤ state.greatest)
    (digits : point / 64 ^ state.more = 64 * state.bits + (byte - 0x80).toNat) :
    Awaits state point ∧ byte = UInt8.ofNat (point / 64 ^ state.more % 64 + 0x80) := by
  have least : state.least.toNat ≤ byte.toNat := within.1
  have greatest : byte.toNat ≤ state.greatest.toNat := within.2
  have low := proper.least
  have high := proper.greatest
  have number := digit_of_byte (Nat.le_trans low least)
  have digit : point / 64 ^ state.more % 64 + 0x80 = byte.toNat := by omega
  refine ⟨⟨?_, ?_, ?_⟩, ?_⟩
  · rw [Nat.pow_succ, ← Nat.div_div_eq_div_mul]
    omega
  · rwa [digit]
  · rwa [digit]
  · rw [digit, UInt8.ofNat_toNat]

/-- A byte out of bounds, or none at all, gives up the open character. -/
theorem given_up_or_within (state : OpenCharacter) (bytes : List UInt8) :
    (∃ more, utf8Chars (some state) bytes = replacement :: more) ∨
      ∃ byte rest, bytes = byte :: rest ∧ state.least ≤ byte ∧ byte ≤ state.greatest := by
  cases bytes with
  | nil => exact .inl ⟨[], rfl⟩
  | cons byte rest =>
    by_cases within : state.least ≤ byte ∧ byte ≤ state.greatest
    · exact .inr ⟨byte, rest, rfl, within⟩
    · refine .inl ⟨(firstByte byte).1 ++ utf8Chars (firstByte byte).2 rest, ?_⟩
      simp only [utf8Chars, nextByte, if_neg within, List.cons_append]

/-- An open character is given up, or the last bytes of one that it may become stand there. -/
theorem open_cases (proper : Proper state) (bytes : List UInt8) :
    (∃ more, utf8Chars (some state) bytes = replacement :: more) ∨
      ∃ point rest, Awaits state point ∧ bytes = tailBytes (state.more + 1) point ++ rest := by
  generalize size : state.more = more
  induction more generalizing state bytes with
  | zero =>
    rcases given_up_or_within state bytes with replaced | ⟨byte, rest, rfl, within⟩
    · exact .inl replaced
    · obtain ⟨awaited, same⟩ := awaits_of_digit (64 * state.bits + (byte - 0x80).toNat) proper within
        (by rw [size, Nat.pow_zero, Nat.div_one])
      rw [size] at same
      exact .inr ⟨_, rest, awaited, congrArg (· :: rest) same⟩
  | succ more ih =>
    rcases given_up_or_within state bytes with replaced | ⟨byte, rest, rfl, within⟩
    · exact .inl replaced
    · have step : utf8Chars (some state) (byte :: rest) =
          utf8Chars (some { bits := 64 * state.bits + (byte - 0x80).toNat, more := more }) rest := by
        simp [utf8Chars, nextByte, within, size]
      rcases ih (proper_of_bounds _ _) rest rfl with ⟨found, replaced⟩ | ⟨point, behind, later, rfl⟩
      · exact .inl ⟨found, step.trans replaced⟩
      · obtain ⟨awaited, same⟩ := awaits_of_digit point proper within (size ▸ later.bits)
        rw [size] at same
        exact .inr ⟨point, behind, awaited,
          congrArg (· :: (tailBytes (more + 1) point ++ behind)) same⟩

/-- A character is read from its bytes, whatever stands behind. -/
theorem read_char (c : Char) (rest : List UInt8) :
    utf8Chars none (String.utf8EncodeChar c ++ rest) = c :: utf8Chars none rest := by
  obtain ⟨count, needs⟩ := exists_needs c
  rw [encode_eq needs, List.cons_append, utf8Chars, nextByte, firstByte_eq,
    UInt8.toNat_ofNat_of_lt' (lead_lt needs)]
  cases count with
  | zero =>
    have ascii : c.toNat < 0x80 := needs
    have number : leadMark 0 + c.toNat / 64 ^ 0 = c.toNat := by simp [leadMark]
    rw [number, opening, if_pos ascii, Char.ofNat_toNat]
    rfl
  | succ more =>
    have valid : c.toNat.isValidChar := c.valid
    obtain ⟨state, opens, rfl, awaited⟩ := opens_of_needs valid needs
    rw [opening_of_opens opens]
    exact read_tail awaited

/-- Bytes that begin with no character are replaced at their front. -/
theorem read_unread (nonempty : bytes ≠ [])
    (unread : ∀ c, ¬String.utf8EncodeChar c <+: bytes) :
    ∃ more, utf8Chars none bytes = replacement :: more := by
  obtain ⟨byte, rest, rfl⟩ := List.exists_cons_of_ne_nil nonempty
  have first : utf8Chars none (byte :: rest) =
      (opening byte.toNat).1 ++ utf8Chars (opening byte.toNat).2 rest := by
    rw [utf8Chars, nextByte, firstByte_eq]
  rcases opening_cases byte.toNat with ⟨ascii, _⟩ | stray | ⟨state, opens, opened⟩
  · obtain ⟨c, value⟩ := char_of_valid (.inl (Nat.lt_trans ascii (by decide)))
    have needs : Needs 0 c.toNat := value ▸ ascii
    have single := encode_eq needs
    refine absurd ⟨rest, ?_⟩ (unread c)
    rw [single]
    simp [leadMark, tailBytes, value]
  · exact ⟨_, first.trans (by rw [stray]; rfl)⟩
  · rw [first, opened]
    rcases open_cases (proper_of_opens opens) rest with replaced | ⟨point, behind, awaited, rfl⟩
    · exact replaced
    · obtain ⟨valid, needs, number⟩ := needs_of_opens opens awaited
      obtain ⟨c, rfl⟩ := char_of_valid valid
      refine absurd ⟨behind, ?_⟩ (unread c)
      rw [encode_eq needs, ← number, UInt8.ofNat_toNat]
      rfl

theorem isText_iff : IsText bytes ↔ ∃ text, utf8Bytes text = bytes := by
  have encoded (chars : List Char) : (⟨bytes.toArray⟩ : ByteArray) = chars.utf8Encode ↔
      bytes = chars.flatMap String.utf8EncodeChar := by
    rw [ByteArray.ext_iff, List.utf8Encode, List.data_toByteArray]
    exact ⟨List.toArray_inj, congrArg _⟩
  constructor
  · rintro ⟨chars, same⟩
    exact ⟨String.ofList chars, by rw [utf8Bytes, String.toList_ofList, (encoded chars).mp same]⟩
  · rintro ⟨text, same⟩
    exact ⟨text.toList, (encoded text.toList).mpr same.symm⟩

private theorem utf8Bytes_append (first second : String) :
    utf8Bytes (first ++ second) = utf8Bytes first ++ utf8Bytes second := by
  simp [utf8Bytes]

theorem length_utf8Bytes (text : String) : (utf8Bytes text).length = text.utf8ByteSize := by
  rw [utf8Bytes, ← List.size_toByteArray, ← List.utf8Encode, String.utf8Encode_toList,
    String.size_toByteArray]

/-- A text is read from its bytes, whatever stands behind. -/
theorem read_text (text : String) (rest : List UInt8) :
    utf8Chars none (utf8Bytes text ++ rest) = text.toList ++ utf8Chars none rest := by
  unfold utf8Bytes
  induction text.toList with
  | nil => rfl
  | cons c more ih =>
    rw [List.flatMap_cons, List.append_assoc, read_char, ih, List.cons_append]

/-- Reading undoes writing. -/
theorem ofUtf8_utf8Bytes (text : String) : ofUtf8 (utf8Bytes text) = text := by
  have read := read_text text []
  rw [List.append_nil, utf8Chars, List.append_nil] at read
  rw [ofUtf8, read, String.ofList_toList]

theorem exists_longest (bytes : List UInt8) : ∃ front, LongestText front bytes := by
  classical
  let Begins (size : Nat) : Prop :=
    ∃ front, utf8Bytes front <+: bytes ∧ (utf8Bytes front).length = size
  have empty : Begins 0 := ⟨"", List.nil_prefix, rfl⟩
  obtain ⟨front, begins, size⟩ := Nat.findGreatest_spec (Nat.zero_le bytes.length) empty
  refine ⟨front, begins, ?_⟩
  intro other shorter
  apply List.prefix_of_prefix_length_le shorter begins
  rw [size]
  exact Nat.le_findGreatest shorter.length_le ⟨other, shorter, rfl⟩

/-- Bytes that are no text are read as the longest text that they begin with, a replacement, and
whatever else there is. -/
theorem LongestText.read {front : String} (longest : LongestText front bytes)
    (broken : ¬IsText bytes) : ∃ rest, ofUtf8 bytes = front ++ "\ufffd" ++ rest := by
  obtain ⟨rest, rfl⟩ := longest.begins
  have nonempty : rest ≠ [] := by
    rintro rfl
    exact broken (isText_iff.mpr ⟨front, (List.append_nil _).symm⟩)
  have unread (c : Char) : ¬String.utf8EncodeChar c <+: rest := by
    intro begins
    have single : utf8Bytes (String.ofList [c]) = String.utf8EncodeChar c := by simp [utf8Bytes]
    have longer := longest.longest (front ++ String.ofList [c])
      (by rw [utf8Bytes_append, single]; exact (List.prefix_append_right_inj _).mpr begins)
    have sizes := longer.length_le
    rw [utf8Bytes_append, single, List.length_append, String.length_utf8EncodeChar] at sizes
    exact absurd c.utf8Size_pos (by omega)
  obtain ⟨more, replaced⟩ := read_unread nonempty unread
  refine ⟨String.ofList more, String.toList_inj.mp ?_⟩
  simp [ofUtf8, read_text, replaced, replacement]

end NativeThunks.Utf8Reading
