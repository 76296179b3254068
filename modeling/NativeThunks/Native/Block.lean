import NativeThunks.Native.Handle
import NativeThunks.Text.Quoted
import NativeThunks.Text.Utf8

/-! Native texts: blocks of memory that hold a length, the bytes of the text, and a final zero byte.
Memory is explicit, so ownership can be followed: a block is live from its allocation to its
release, and a release has to give the size of the allocation. What a correct use never does has no
result. -/
namespace NativeThunks.Native
open NativeThunks.Text

structure Block where
  /-- The size that was asked for. -/
  size : Nat
  /-- The length that stands at the start. -/
  length : Nat
  /-- The bytes behind the length. -/
  data : List UInt8
deriving DecidableEq, Repr

/-- The size of a block for so many bytes: eight bytes hold the length and one is the final zero. -/
def blockSize (length : Nat) : Nat := 8 + length + 1

/-- The live blocks by their addresses. -/
structure Heap where
  blocks : List (Nat × Block) := []
  /-- No block has had this address or a greater one. -/
  next : Nat := 1
deriving DecidableEq, Repr

/-- The address of no block. -/
def null : Nat := 0

namespace Heap

/-- The live block at an address. -/
def get? (heap : Heap) (address : Nat) : Option Block :=
  (heap.blocks.find? (·.1 == address)).map (·.2)

/-- Puts a block at a new address. -/
def allocate (heap : Heap) (block : Block) : Nat × Heap :=
  (heap.next, ⟨heap.blocks ++ [(heap.next, block)], heap.next + block.size⟩)

/-- Releases a live block, which has to have the given size. -/
def release? (heap : Heap) (address size : Nat) : Option Heap := do
  let block ← heap.get? address
  if block.size = size then return { heap with blocks := heap.blocks.filter (·.1 != address) }
  else none

end Heap

/-- A text in a block that it owns. -/
structure NativeText where
  address : Nat
deriving DecidableEq, Repr

namespace NativeText

/-- A new block with these bytes. -/
def ofBytes (bytes : List UInt8) (heap : Heap) : NativeText × Heap :=
  let block : Block :=
    { size := blockSize bytes.length, length := bytes.length, data := bytes ++ [0] }
  let (address, heap) := heap.allocate block
  (⟨address⟩, heap)

/-- A new block with the bytes of a text. -/
def ofText (text : String) (heap : Heap) : NativeText × Heap := ofBytes (utf8Bytes text) heap

/-- The address that is handed out. The block stays owned. -/
def pointer (text : NativeText) : Nat := text.address

/-- Gives up the ownership of the block. -/
def intoRaw (text : NativeText) : Nat := text.address

/-- Takes over a block; null is none. -/
def fromRaw (address : Nat) : Option NativeText := if address = null then none else some ⟨address⟩

def length? (text : NativeText) (heap : Heap) : Option Nat :=
  (heap.get? text.address).map (·.length)

def bytes? (text : NativeText) (heap : Heap) : Option (List UInt8) :=
  (heap.get? text.address).map fun block => block.data.take block.length

/-- The text; bytes that are no text are replaced. -/
def read? (text : NativeText) (heap : Heap) : Option String := (text.bytes? heap).map ofUtf8

/-- The wording of a text in messages. -/
def describe? (text : NativeText) (heap : Heap) : Option String :=
  (text.read? heap).map fun content => "NativeString(" ++ quoted content ++ ")"

/-- Releases the block, with the size that its length tells. -/
def drop? (text : NativeText) (heap : Heap) : Option Heap := do
  heap.release? text.address (blockSize (← text.length? heap))

/-- The text, with the block released. -/
def intoString? (text : NativeText) (heap : Heap) : Option (String × Heap) := do
  let content ← text.read? heap
  return (content, ← text.drop? heap)

/-- The text behind an address that a native function has returned, with the block released. Null
stands for the empty text. -/
def take? (address : Nat) (heap : Heap) : Option (String × Heap) :=
  match fromRaw address with
  | none => some ("", heap)
  | some text => text.intoString? heap

end NativeText

/-! What native code calls -/

/-- A new block with these bytes, which the caller owns. -/
def textNew (bytes : List UInt8) (heap : Heap) : Nat × Heap :=
  let (text, heap) := NativeText.ofBytes bytes heap
  (text.intoRaw, heap)

/-- The bytes of a block with the final zero, and their number without it. Nobody's ownership
changes, and null has no bytes. -/
def textData? (address : Nat) (heap : Heap) : Option (Option (List UInt8) × Nat) :=
  match NativeText.fromRaw address with
  | none => some (none, 0)
  | some text => (heap.get? text.address).map fun block => (some block.data, block.length)

/-- Releases a block; null is left alone. -/
def textFree? (address : Nat) (heap : Heap) : Option Heap :=
  match NativeText.fromRaw address with
  | none => some heap
  | some text => text.drop? heap

end NativeThunks.Native
