import NativeThunks.Proofs.TextOwnership
import NativeThunks.Proofs.Utf8Reading

/-! Texts across the boundary. A text that is given away and taken back is the text it was, whatever
characters it has, and so is a copy that was made through the calls of the other side. Bytes that are
no text are taken all the same: the longest text at their front is kept, and a replacement shows where
it ends. In each case the memory is left as it was before the block was made. -/
namespace NativeThunks.TextPassing
open Native Text TextOwnership Utf8Reading

variable {heap : Heap} {place : Nat}

/-- A block for a text: its length in bytes, the bytes, and a final zero byte. -/
structure Stores (heap : Heap) (address : Nat) (text : String) : Prop where
  occupied : address ≠ null
  block : ∃ block, heap.get? address = some block ∧ block.length = text.utf8ByteSize ∧
    block.data = utf8Bytes text ++ [0]

/-- What is taken from a block that was made is this text, and the blocks of another heap are left. -/
def TakenAs (made : Nat × Heap) (text : String) (left : Heap) : Prop :=
  ∃ later, NativeText.take? made.1 made.2 = some (text, later) ∧
    ∀ place, later.get? place = left.get? place

/-- The block of a new text is where the allocator has put it. -/
theorem get_made (free : Free heap place) (bytes : List UInt8) :
    (NativeText.ofBytes bytes (placing heap place)).2.get? place = some (blockOf bytes) :=
  (get_allocate free.2 (blockOf bytes) place).trans (if_pos rfl)

private theorem stores_made (free : Free heap place) (text : String) :
    Stores (NativeText.ofText text (placing heap place)).2 place text :=
  ⟨free.1, _, get_made free _, length_utf8Bytes text, rfl⟩

/-- What is taken from a new block is what its bytes are read as. -/
theorem taken_of_made (free : Free heap place) (bytes : List UInt8) :
    TakenAs (textNew bytes (placing heap place)) (ofUtf8 bytes) heap := by
  refine ⟨_, take_of_block free.1 (get_made free bytes), ?_⟩
  intro other
  rw [get_without]
  split
  · rename_i same
    exact same ▸ (Decidable.not_not.mp free.2).symm
  · rename_i different
    exact (get_allocate free.2 (blockOf bytes) other).trans (if_neg different)

private theorem taken_of_text (free : Free heap place) (text : String) :
    TakenAs (textNew (utf8Bytes text) (placing heap place)) text heap := by
  have taken := taken_of_made free (utf8Bytes text)
  rwa [ofUtf8_utf8Bytes] at taken

/-- What is told of a stored text are its bytes, with the final zero and their number. -/
theorem Stores.data {address : Nat} {text : String} (stored : Stores heap address text) :
    textData? address heap = some (some (utf8Bytes text ++ [0]), (utf8Bytes text).length) := by
  obtain ⟨block, there, length, data⟩ := stored.block
  simp [textData?, NativeText.fromRaw, stored.occupied, there, length, data, length_utf8Bytes]

/-- A text that is given away is stored with its length and a final zero, and is taken back as it was.
So is a copy made from what is told of a stored text. Bytes that are no text are taken as the longest
text that they begin with, a replacement, and what else there is. -/
theorem any_text_survives (free : Free heap place) :
    (∀ text,
      let made := NativeText.ofText text (placing heap place)
      Stores made.2 made.1.intoRaw text ∧ TakenAs (made.1.intoRaw, made.2) text heap) ∧
    (∀ text source, Stores heap source text → ∃ data length,
      textData? source heap = some (some data, length) ∧
        TakenAs (textNew (data.take length) (placing heap place)) text heap) ∧
    ∀ bytes, ¬IsText bytes → ∃ content,
      TakenAs (textNew bytes (placing heap place)) content heap ∧ '\ufffd' ∈ content.toList ∧
        (∃ front, LongestText front bytes) ∧
        ∀ front, LongestText front bytes → ∃ rest, content = front ++ "\ufffd" ++ rest := by
  refine ⟨?given, ?copied, ?broken⟩
  case given =>
    intro text
    exact ⟨stores_made free text, taken_of_text free text⟩
  case copied =>
    intro text source stored
    refine ⟨_, _, stored.data, ?_⟩
    rw [List.take_left]
    exact taken_of_text free text
  case broken =>
    intro bytes broken
    obtain ⟨front, longest⟩ := exists_longest bytes
    obtain ⟨rest, read⟩ := longest.read broken
    refine ⟨ofUtf8 bytes, taken_of_made free bytes, ?_, ⟨front, longest⟩,
      fun other longest => longest.read broken⟩
    simp [read]

/-- A memory with one text in it. -/
def furnished : Heap := (NativeText.ofText "é" (placing {} 1)).2

/-- A zero character and one of four bytes come back from a memory that holds another text. That text
is copied, and a byte that begins nothing is replaced. -/
theorem any_text_survives_furnished : Free furnished 20 ∧ Stores furnished 1 "é" ∧
    ¬IsText [0x6f, 0x6b, 0xff] ∧
    (let made := NativeText.ofText "a\x00😀" (placing furnished 20)
     TakenAs (made.1.intoRaw, made.2) "a\x00😀" furnished) ∧
    (∃ data length, textData? 1 furnished = some (some data, length) ∧
      TakenAs (textNew (data.take length) (placing furnished 20)) "é" furnished) ∧
    ∃ content, TakenAs (textNew [0x6f, 0x6b, 0xff] (placing furnished 20)) content furnished ∧
      '\ufffd' ∈ content.toList := by
  have free : Free furnished 20 := by decide +kernel
  have stored : Stores furnished 1 "é" := stores_made (by decide +kernel) "é"
  have broken : ¬IsText [0x6f, 0x6b, 0xff] := by
    rw [isText_iff]
    rintro ⟨text, same⟩
    have read := ofUtf8_utf8Bytes text
    rw [same] at read
    exact absurd (read ▸ same) (by decide +kernel)
  obtain ⟨survives, copied, replaced⟩ := any_text_survives free
  obtain ⟨content, taken, shown, _⟩ := replaced _ broken
  exact ⟨free, stored, broken, (survives _).2, copied _ _ stored, content, taken, shown⟩

end NativeThunks.TextPassing
