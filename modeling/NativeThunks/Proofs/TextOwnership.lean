import NativeThunks.Native.Block

/-! Who owns the blocks of native texts. A run of calls follows the contract if it hands back only what
nothing else owns. Told here is what such a run comes to: no call ever lacks a result, and at every
moment the live blocks are those that a text or an outstanding handle owns, each with the bytes it was
made with. The allocator is free to give out an address again once its block is gone, so a block is one
of the creations that the memory has seen, and not its address. -/
namespace NativeThunks.TextOwnership
open Native Text

/-- The calls on native texts. One that makes a block is told where the allocator puts it. -/
inductive Operation where
  | ofText (text : String) (place : Nat)
  | ofBytes (bytes : List UInt8) (place : Nat)
  | pointer (text : NativeText)
  | intoRaw (text : NativeText)
  | fromRaw (raw : Nat)
  | take (raw : Nat)
  | drop (text : NativeText)
  | textNew (bytes : List UInt8) (place : Nat)
  | textData (raw : Nat)
  | textFree (raw : Nat)
deriving DecidableEq, Repr

/-- What the memory sees of the calls. -/
inductive Event where
  | created (address : Nat) (bytes : List UInt8)
  | released (address size : Nat)
deriving DecidableEq, Repr

def Event.address : Event → Nat
  | .created address _ => address
  | .released address _ => address

/-- The block that is made for bytes. -/
def blockOf (bytes : List UInt8) : Block where
  size := blockSize bytes.length
  length := bytes.length
  data := bytes ++ [0]

/-- A heap whose next block is at a place. -/
def placing (heap : Heap) (place : Nat) : Heap := { heap with next := place }

/-- A heap in which something has happened; a release may be impossible. -/
def Event.perform? (heap : Heap) : Event → Option Heap
  | .created address bytes => some ((placing heap address).allocate (blockOf bytes)).2
  | .released address size => heap.release? address size

/-- The blocks, what owns them, and what the memory has seen so far. -/
structure Custody where
  heap : Heap := {}
  /-- The texts that are there. -/
  held : List NativeText := []
  /-- The addresses that were given out together with their blocks. -/
  handles : List Nat := []
  log : List Event := []
deriving DecidableEq, Repr

namespace Custody

/-- The addresses of all that owns a block. -/
def owners (state : Custody) : List Nat := state.held.map (·.address) ++ state.handles

/-- What the memory sees when a text goes, if there is one. -/
def releases (state : Custody) (text : Option NativeText) : List Event :=
  (text.bind fun text =>
    (text.length? state.heap).map fun length => .released text.address (blockSize length)).toList

/-- The state behind a call. A call that must not be made has none. -/
def perform? (state : Custody) : Operation → Option Custody
  | .ofText text place =>
    let (made, heap) := NativeText.ofText text (placing state.heap place)
    some { state with
      heap := heap
      held := made :: state.held
      log := state.log ++ [.created made.address (utf8Bytes text)] }
  | .ofBytes bytes place =>
    let (made, heap) := NativeText.ofBytes bytes (placing state.heap place)
    some { state with
      heap := heap
      held := made :: state.held
      log := state.log ++ [.created made.address bytes] }
  | .pointer _ => some state
  | .intoRaw text =>
    some { state with
      held := state.held.erase text
      handles := text.intoRaw :: state.handles }
  | .fromRaw raw =>
    match NativeText.fromRaw raw with
    | none => some state
    | some text =>
      some { state with
        held := text :: state.held
        handles := state.handles.erase raw }
  | .take raw => do
    let (_, heap) ← NativeText.take? raw state.heap
    return { state with
      heap := heap
      handles := state.handles.erase raw
      log := state.log ++ state.releases (NativeText.fromRaw raw) }
  | .drop text => do
    let heap ← text.drop? state.heap
    return { state with
      heap := heap
      held := state.held.erase text
      log := state.log ++ state.releases (some text) }
  | .textNew bytes place =>
    let (raw, heap) := textNew bytes (placing state.heap place)
    some { state with
      heap := heap
      handles := raw :: state.handles
      log := state.log ++ [.created raw bytes] }
  | .textData raw => (textData? raw state.heap).map fun _ => state
  | .textFree raw => do
    let heap ← textFree? raw state.heap
    return { state with
      heap := heap
      handles := state.handles.erase raw
      log := state.log ++ state.releases (NativeText.fromRaw raw) }

/-- The state behind some calls. -/
def run? (state : Custody) : List Operation → Option Custody
  | [] => some state
  | operation :: rest => (state.perform? operation).bind (run? · rest)

end Custody

/-- There is a block at an address. -/
def Live (heap : Heap) (address : Nat) : Prop := heap.get? address ≠ none

/-- An address may be given back: it is null, or that of a live block that no text owns. -/
def Returnable (state : Custody) (raw : Nat) : Prop :=
  raw = null ∨ Live state.heap raw ∧ raw ∉ state.held.map (·.address)

/-- A place where the allocator may put a block. -/
def Free (heap : Heap) (place : Nat) : Prop := place ≠ null ∧ ¬Live heap place

/-- The contract of the calls. -/
def Allowed (state : Custody) : Operation → Prop
  | .ofText _ place | .ofBytes _ place | .textNew _ place => Free state.heap place
  | .pointer text | .intoRaw text | .drop text => text ∈ state.held
  | .fromRaw raw | .take raw | .textFree raw => Returnable state raw
  | .textData raw => raw = null ∨ Live state.heap raw

/-- A run in which every call follows the contract, as far as it gets. -/
def AllowedRun (state : Custody) : List Operation → Prop
  | [] => True
  | operation :: rest => Allowed state operation ∧
    ∀ later, state.perform? operation = some later → AllowedRun later rest

instance (heap : Heap) (address : Nat) : Decidable (Live heap address) :=
  inferInstanceAs (Decidable (heap.get? address ≠ none))

instance (state : Custody) (raw : Nat) : Decidable (Returnable state raw) :=
  inferInstanceAs (Decidable (_ ∨ _ ∧ _))

instance (heap : Heap) (place : Nat) : Decidable (Free heap place) :=
  inferInstanceAs (Decidable (_ ∧ _))

instance decidableAllowed (state : Custody) :
    (operation : Operation) → Decidable (Allowed state operation)
  | .ofText _ place | .ofBytes _ place | .textNew _ place =>
    inferInstanceAs (Decidable (Free state.heap place))
  | .pointer text | .intoRaw text | .drop text => inferInstanceAs (Decidable (text ∈ state.held))
  | .fromRaw raw | .take raw | .textFree raw => inferInstanceAs (Decidable (Returnable state raw))
  | .textData raw => inferInstanceAs (Decidable (raw = null ∨ Live state.heap raw))

instance decidableAllowedRun (state : Custody) :
    (operations : List Operation) → Decidable (AllowedRun state operations)
  | [] => isTrue trivial
  | operation :: rest =>
    match done : state.perform? operation with
    | none => decidable_of_iff (Allowed state operation)
      ⟨fun allowed => ⟨allowed, fun _ other => nomatch done.symm.trans other⟩, And.left⟩
    | some later =>
      have := decidableAllowedRun later rest
      decidable_of_iff (Allowed state operation ∧ AllowedRun later rest)
        ⟨fun allowed => ⟨allowed.1, fun _ other =>
            Option.some.inj (done.symm.trans other) ▸ allowed.2⟩,
          fun allowed => ⟨allowed.1, allowed.2 later done⟩⟩

/-- The events happened to a heap that was empty at first. -/
inductive Replays : List Event → Heap → Prop where
  | start : Replays [] {}
  | next {log heap event later} (before : Replays log heap)
      (done : event.perform? heap = some later) : Replays (log ++ [event]) later

/-- What was made at an address is released before anything else is made there, once and with the size
that it was made with. Told is also what was made there and is not yet released. -/
inductive InOrder (address : Nat) : List Event → Option (List UInt8) → Prop where
  | start : InOrder address [] none
  | created {log bytes} (before : InOrder address log none) :
      InOrder address (log ++ [.created address bytes]) (some bytes)
  | released {log bytes} (before : InOrder address log (some bytes)) :
      InOrder address (log ++ [.released address (blockSize bytes.length)]) none
  | elsewhere {log event open?} (before : InOrder address log open?)
      (other : event.address ≠ address) : InOrder address (log ++ [event]) open?

/-- What is true at every moment of a run. -/
structure Accounted (state : Custody) : Prop where
  /-- The addresses of the live blocks are those of what owns a block. -/
  owners : state.owners.Perm (state.heap.blocks.map (·.1))
  /-- No block is owned twice. -/
  distinct : state.owners.Nodup
  /-- Null is no block. -/
  occupied : null ∉ state.owners
  replayed : Replays state.log state.heap
  /-- What was made and is not yet released is what is there. -/
  history : ∀ address, ∃ open?, InOrder address state.log open? ∧
    state.heap.get? address = open?.map blockOf

/-- What is read from a block is what it was made with. -/
structure ReadsAs (heap : Heap) (address : Nat) (content : List UInt8) : Prop where
  length : (NativeText.mk address).length? heap = some content.length
  bytes : (NativeText.mk address).bytes? heap = some content
  data : textData? address heap = some (some (content ++ [0]), content.length)
  taken : ∃ later, NativeText.take? address heap = some (ofUtf8 content, later)

variable {state later : Custody} {heap reached : Heap} {address place size : Nat}
  {content : List UInt8} {text : NativeText}

/-! ## Blocks -/

private theorem live_iff : Live heap address ↔ address ∈ heap.blocks.map (·.1) := by
  rw [Live, Heap.get?, ne_eq, Option.map_eq_none_iff, List.find?_eq_none, List.mem_map]
  simp

theorem get_allocate (free : ¬Live heap place) (block : Block) (address : Nat) :
    ((placing heap place).allocate block).2.get? address =
      if address = place then some block else heap.get? address := by
  have nothing : heap.get? place = none := Decidable.not_not.mp free
  simp only [Heap.get?, Heap.allocate, placing, List.find?_append, List.find?_singleton] at nothing ⊢
  by_cases same : address = place
  · subst same
    simp [Option.map_eq_none_iff.mp nothing]
  · simp [same, Ne.symm same]

/-- A heap without the block at an address. -/
def without (heap : Heap) (gone : Nat) : Heap :=
  { heap with blocks := heap.blocks.filter (·.1 != gone) }

theorem get_without (heap : Heap) (gone address : Nat) :
    (without heap gone).get? address = if address = gone then none else heap.get? address := by
  simp only [without, Heap.get?, List.find?_filter]
  by_cases same : address = gone
  · subst same
    simp
  · rw [if_neg same]
    congr 2
    funext entry
    by_cases here : entry.1 = address
    · simp [here, same]
    · simp [here]

/-- A release is possible exactly where a block of the size is. -/
theorem release_iff : heap.release? address size = some reached ↔
    ∃ block, heap.get? address = some block ∧ block.size = size ∧
      reached = without heap address := by
  unfold Heap.release?
  cases heap.get? address with
  | none => simp
  | some block =>
    by_cases same : block.size = size
    · simp [same, without, eq_comm]
    · simp [same]

/-! ## Single calls -/

private theorem release_of_block (there : heap.get? address = some (blockOf content)) :
    heap.release? address (blockSize content.length) = some (without heap address) :=
  release_iff.mpr ⟨_, there, rfl, rfl⟩

/-- A text goes with the release of its block. -/
theorem drop_of_block (there : heap.get? text.address = some (blockOf content)) :
    text.drop? heap = some (without heap text.address) := by
  simp [NativeText.drop?, NativeText.length?, there, blockOf, release_of_block there]

/-- Taking the text of a block drops it. -/
theorem take_of_block (occupied : address ≠ null)
    (there : heap.get? address = some (blockOf content)) :
    NativeText.take? address heap = some (ofUtf8 content, without heap address) := by
  have dropped : (NativeText.mk address).drop? heap = some (without heap address) :=
    drop_of_block there
  simp [NativeText.take?, NativeText.fromRaw, occupied, NativeText.intoString?, NativeText.read?,
    NativeText.bytes?, there, dropped, blockOf]

private theorem textFree_of_block (occupied : address ≠ null)
    (there : heap.get? address = some (blockOf content)) :
    textFree? address heap = some (without heap address) := by
  have dropped : (NativeText.mk address).drop? heap = some (without heap address) :=
    drop_of_block there
  simp [textFree?, NativeText.fromRaw, occupied, dropped]

private theorem reads_of_block (occupied : address ≠ null)
    (there : heap.get? address = some (blockOf content)) : ReadsAs heap address content := by
  constructor
  case length => simp [NativeText.length?, there, blockOf]
  case bytes => simp [NativeText.bytes?, there, blockOf]
  case data => simp [textData?, NativeText.fromRaw, occupied, there, blockOf]
  case taken => exact ⟨_, take_of_block occupied there⟩

/-- What is behind a call that gives back a block. -/
def returned (state : Custody) (raw : Nat) (content : List UInt8) : Custody :=
  { state with
    heap := without state.heap raw
    handles := state.handles.erase raw
    log := state.log ++ [.released raw (blockSize content.length)] }

private theorem perform_take (occupied : address ≠ null)
    (there : state.heap.get? address = some (blockOf content)) :
    state.perform? (.take address) = some (returned state address content) := by
  simp [Custody.perform?, take_of_block occupied there, returned, Custody.releases,
    NativeText.fromRaw, occupied, NativeText.length?, there, blockOf]

private theorem perform_textFree (occupied : address ≠ null)
    (there : state.heap.get? address = some (blockOf content)) :
    state.perform? (.textFree address) = some (returned state address content) := by
  simp [Custody.perform?, textFree_of_block occupied there, returned, Custody.releases,
    NativeText.fromRaw, occupied, NativeText.length?, there, blockOf]

private theorem perform_drop (there : state.heap.get? text.address = some (blockOf content)) :
    state.perform? (.drop text) = some { state with
      heap := without state.heap text.address
      held := state.held.erase text
      log := state.log ++ [.released text.address (blockSize content.length)] } := by
  simp [Custody.perform?, drop_of_block there, Custody.releases, NativeText.length?, there, blockOf]

private theorem perform_fromRaw (occupied : address ≠ null) :
    state.perform? (.fromRaw address) = some { state with
      held := ⟨address⟩ :: state.held
      handles := state.handles.erase address } := by
  simp [Custody.perform?, NativeText.fromRaw, occupied]

/-- Giving back null changes nothing. -/
theorem perform_null (absent : null ∉ state.handles) :
    state.perform? (.fromRaw null) = some state ∧ state.perform? (.take null) = some state ∧
      state.perform? (.textFree null) = some state := by
  simp [Custody.perform?, NativeText.fromRaw, NativeText.take?, textFree?, Custody.releases,
    List.erase_of_not_mem absent]

/-- Looking at a block changes nothing. -/
theorem perform_textData {raw : Nat} (readable : raw = null ∨ Live state.heap raw) :
    state.perform? (.textData raw) = some state := by
  by_cases none : raw = null
  · simp [Custody.perform?, textData?, NativeText.fromRaw, none]
  · obtain ⟨block, there⟩ := Option.ne_none_iff_exists'.mp (readable.resolve_left none)
    simp [Custody.perform?, textData?, NativeText.fromRaw, none, there]

/-! ## Steps -/

/-- A new block with an owner. -/
theorem Accounted.created (sound : Accounted state) (free : Free state.heap place)
    (heap : later.heap = ((placing state.heap place).allocate (blockOf content)).2)
    (owners : later.owners.Perm (place :: state.owners))
    (log : later.log = state.log ++ [.created place content]) : Accounted later := by
  have fresh : place ∉ state.owners := by
    intro owned
    exact free.2 (live_iff.mpr (sound.owners.mem_iff.mp owned))
  constructor
  case owners =>
    rw [heap]
    refine owners.trans ((sound.owners.cons place).trans ?_)
    simpa [Heap.allocate, placing] using (List.perm_append_singleton place _).symm
  case distinct => exact owners.nodup_iff.mpr (List.nodup_cons.mpr ⟨fresh, sound.distinct⟩)
  case occupied =>
    rw [owners.mem_iff, List.mem_cons, not_or]
    exact ⟨Ne.symm free.1, sound.occupied⟩
  case replayed =>
    rw [log, heap]
    exact sound.replayed.next rfl
  case history =>
    intro address
    obtain ⟨open?, order, there⟩ := sound.history address
    rw [log, heap, get_allocate free.2]
    by_cases same : address = place
    · subst same
      have closed : open? = none := by
        have nothing := Decidable.not_not.mp free.2
        rw [there] at nothing
        exact Option.map_eq_none_iff.mp nothing
      subst closed
      exact ⟨some content, order.created, by simp⟩
    · exact ⟨open?, order.elsewhere (Ne.symm same), by rw [if_neg same, there]⟩

/-- A block that changes hands. -/
theorem Accounted.passed (sound : Accounted state) (heap : later.heap = state.heap)
    (owners : later.owners.Perm state.owners) (log : later.log = state.log) : Accounted later := by
  constructor
  case owners => exact heap ▸ owners.trans sound.owners
  case distinct => exact owners.nodup_iff.mpr sound.distinct
  case occupied => exact fun null => sound.occupied (owners.mem_iff.mp null)
  case replayed => exact log ▸ heap ▸ sound.replayed
  case history => exact log ▸ heap ▸ sound.history

/-- A block that goes with its owner. -/
theorem Accounted.released (sound : Accounted state)
    (there : state.heap.get? address = some (blockOf content))
    (heap : state.heap.release? address (blockSize content.length) = some later.heap)
    (owners : state.owners.Perm (address :: later.owners))
    (log : later.log = state.log ++ [.released address (blockSize content.length)]) :
    Accounted later := by
  have left : later.heap = without state.heap address := by
    obtain ⟨_, _, _, left⟩ := release_iff.mp heap
    exact left
  obtain ⟨gone, distinct⟩ := List.nodup_cons.mp (owners.nodup_iff.mp sound.distinct)
  constructor
  case owners =>
    have rest := (owners.symm.trans sound.owners).filter (· != address)
    have kept : later.owners.filter (· != address) = later.owners :=
      List.filter_eq_self.mpr fun other owned => bne_iff_ne.mpr fun same => gone (same ▸ owned)
    rw [List.filter_cons_of_neg (by simp), kept, List.filter_map] at rest
    rw [left]
    exact rest
  case distinct => exact distinct
  case occupied =>
    intro null
    exact sound.occupied (owners.mem_iff.mpr (List.mem_cons_of_mem _ null))
  case replayed =>
    rw [log]
    exact sound.replayed.next heap
  case history =>
    intro other
    obtain ⟨open?, order, found⟩ := sound.history other
    rw [log, left, get_without]
    by_cases same : other = address
    · subst same
      rw [there] at found
      obtain ⟨made, rfl, same⟩ := Option.map_eq_some_iff.mp found.symm
      have lengths : made.length = content.length := congrArg Block.length same
      exact ⟨none, lengths ▸ order.released, by simp⟩
    · exact ⟨open?, order.elsewhere (Ne.symm same), by rw [if_neg same, found]⟩

/-- What is owned has the block that it was made with. -/
theorem Accounted.block (sound : Accounted state) (owned : address ∈ state.owners) :
    ∃ content, InOrder address state.log (some content) ∧
      state.heap.get? address = some (blockOf content) := by
  obtain ⟨open?, order, there⟩ := sound.history address
  cases open? with
  | none => exact absurd there (live_iff.mpr (sound.owners.mem_iff.mp owned))
  | some content => exact ⟨content, order, there⟩

/-- What may be given back and is not null came with a handle. -/
theorem Accounted.handle (sound : Accounted state) {raw : Nat} (returnable : Returnable state raw)
    (occupied : raw ≠ null) : raw ∈ state.handles := by
  obtain ⟨live, unheld⟩ := returnable.resolve_left occupied
  have owned := sound.owners.mem_iff.mpr (live_iff.mp live)
  exact (List.mem_append.mp owned).resolve_left unheld

private theorem owners_of_handle {raw : Nat} (given : raw ∈ state.handles) :
    state.owners.Perm (raw :: (state.held.map (·.address) ++ state.handles.erase raw)) :=
  ((List.perm_cons_erase given).append_left _).trans List.perm_middle

private theorem owners_of_held (held : text ∈ state.held) :
    state.owners.Perm
      (text.address :: ((state.held.erase text).map (·.address) ++ state.handles)) :=
  ((List.perm_cons_erase held).map _).append_right _

/-- Every block given back has its creation, unless null is. -/
theorem Accounted.returned (sound : Accounted state) {raw : Nat}
    (returnable : Returnable state raw) : raw = null ∨ raw ≠ null ∧ raw ∈ state.handles ∧
      ∃ content, state.heap.get? raw = some (blockOf content) := by
  by_cases none : raw = null
  · exact .inl none
  · have given := sound.handle returnable none
    obtain ⟨content, _, there⟩ := sound.block (List.mem_append_right _ given)
    exact .inr ⟨none, given, content, there⟩

/-- A call that follows the contract has a result, and leaves everything accounted for. -/
theorem Accounted.step (sound : Accounted state) {operation : Operation}
    (allowed : Allowed state operation) :
    ∃ later, state.perform? operation = some later ∧ Accounted later := by
  have absent : null ∉ state.handles := fun given => sound.occupied (List.mem_append_right _ given)
  obtain ⟨fromNull, takeNull, freeNull⟩ := perform_null absent
  cases operation with
  | ofText text place => exact ⟨_, rfl, sound.created allowed rfl (.refl _) rfl⟩
  | ofBytes bytes place => exact ⟨_, rfl, sound.created allowed rfl (.refl _) rfl⟩
  | textNew bytes place => exact ⟨_, rfl, sound.created allowed rfl List.perm_middle rfl⟩
  | pointer text => exact ⟨state, rfl, sound⟩
  | textData raw => exact ⟨state, perform_textData allowed, sound⟩
  | intoRaw text =>
    refine ⟨_, rfl, sound.passed rfl ?_ rfl⟩
    exact List.perm_middle.trans (owners_of_held allowed).symm
  | drop text =>
    have owned : text.address ∈ state.owners :=
      List.mem_append_left _ (List.mem_map_of_mem allowed)
    obtain ⟨content, _, there⟩ := sound.block owned
    refine ⟨_, perform_drop there, ?_⟩
    exact sound.released there (release_of_block there) (owners_of_held allowed) rfl
  | fromRaw raw =>
    obtain rfl | ⟨occupied, given, _⟩ := sound.returned allowed
    · exact ⟨state, fromNull, sound⟩
    · exact ⟨_, perform_fromRaw occupied, sound.passed rfl (owners_of_handle given).symm rfl⟩
  | take raw =>
    obtain rfl | ⟨occupied, given, content, there⟩ := sound.returned allowed
    · exact ⟨state, takeNull, sound⟩
    · exact ⟨_, perform_take occupied there,
        sound.released there (release_of_block there) (owners_of_handle given) rfl⟩
  | textFree raw =>
    obtain rfl | ⟨occupied, given, content, there⟩ := sound.returned allowed
    · exact ⟨state, freeNull, sound⟩
    · exact ⟨_, perform_textFree occupied there,
        sound.released there (release_of_block there) (owners_of_handle given) rfl⟩

/-! ## Runs -/

private theorem accounted_start : Accounted {} := by
  constructor
  case owners => exact .nil
  case distinct => exact List.nodup_nil
  case occupied => exact List.not_mem_nil
  case replayed => exact .start
  case history => exact fun _ => ⟨none, .start, rfl⟩

/-- What is owned reads as it was made. -/
private theorem Accounted.reads (sound : Accounted state) (owned : address ∈ state.owners) :
    ∃ content, InOrder address state.log (some content) ∧ ReadsAs state.heap address content := by
  obtain ⟨content, order, there⟩ := sound.block owned
  have occupied : address ≠ null := by
    rintro rfl
    exact sound.occupied owned
  exact ⟨content, order, reads_of_block occupied there⟩

/-- The address that a text hands out reads as the text was made, for as long as the text is held. -/
theorem Accounted.pointer_reads (sound : Accounted state) (held : text ∈ state.held) :
    ∃ content, InOrder text.pointer state.log (some content) ∧
      ReadsAs state.heap text.pointer content := by
  have owned : text.pointer ∈ state.owners := List.mem_append_left _ (List.mem_map_of_mem held)
  exact sound.reads owned

/-- Every moment of a run that follows the contract is reached, with everything accounted for. -/
theorem Accounted.run {operations moment : List Operation} (sound : Accounted state)
    (allowed : AllowedRun state operations) (reached : moment <+: operations) :
    ∃ later, state.run? moment = some later ∧ Accounted later := by
  induction moment generalizing state operations with
  | nil => exact ⟨state, rfl, sound⟩
  | cons operation rest ih =>
    obtain ⟨more, rfl⟩ := reached
    obtain ⟨first, further⟩ := allowed
    obtain ⟨later, done, sound⟩ := sound.step first
    obtain ⟨final, ran, sound⟩ := ih sound (further later done) (List.prefix_append rest more)
    exact ⟨final, by rw [Custody.run?, done, Option.bind_some, ran], sound⟩

/-- Calls that follow the contract never lack a result. At every moment the live blocks are those that a
text or an outstanding handle owns, and each of them reads as it was made; what was made and is not there
any more was released once, with its own size. Looking at a block changes nothing. -/
theorem ownership_kept {operations moment : List Operation} (allowed : AllowedRun {} operations)
    (reached : moment <+: operations) :
    ∃ state, Custody.run? {} moment = some state ∧ Accounted state ∧
      (∀ address, Live state.heap address ↔ address ∈ state.owners) ∧
      (∀ address ∈ state.owners, ∃ content, InOrder address state.log (some content) ∧
        ReadsAs state.heap address content) ∧
      (∀ address, address ∉ state.owners → InOrder address state.log none) ∧
      ∀ raw, raw = null ∨ Live state.heap raw → state.perform? (.textData raw) = some state := by
  obtain ⟨state, ran, sound⟩ := accounted_start.run allowed reached
  refine ⟨state, ran, sound, ?live, fun _ => sound.reads, ?gone, fun raw => perform_textData⟩
  case live =>
    intro address
    exact live_iff.trans sound.owners.mem_iff.symm
  case gone =>
    intro address lost
    obtain ⟨open?, order, there⟩ := sound.history address
    cases open? with
    | none => exact order
    | some content =>
      exact absurd (sound.owners.mem_iff.mpr (live_iff.mp (by simp [Live, there]))) lost

/-- Calls in which one block goes from a text to a handle and another one the other way, null is given
back, and an address is used again. -/
def exchange : List Operation :=
  [.ofText "ab" 1, .textNew [0xff] 20, .pointer ⟨1⟩, .textData 1, .intoRaw ⟨1⟩, .fromRaw 20,
    .textFree 1, .textFree null, .ofBytes [] 1, .drop ⟨20⟩, .intoRaw ⟨1⟩, .take 1]

/-- Behind the exchange nothing is left, and in its middle there are two owners. -/
theorem ownership_kept_exchange : AllowedRun {} exchange ∧
    (∃ state, Custody.run? {} exchange = some state ∧ state.owners = [] ∧ Accounted state) ∧
    ∃ state, Custody.run? {} (exchange.take 6) = some state ∧ state.owners = [20, 1] ∧
      Accounted state ∧ ∃ content, ReadsAs state.heap 20 content := by
  have allowed : AllowedRun {} exchange := by decide +kernel
  have last : (Custody.run? {} exchange).map (·.owners) = some [] := by decide +kernel
  have middle : (Custody.run? {} (exchange.take 6)).map (·.owners) = some [20, 1] := by
    decide +kernel
  obtain ⟨final, ran, sound, _⟩ := ownership_kept allowed List.prefix_rfl
  obtain ⟨state, reached, accounted, _, reads, _⟩ :=
    ownership_kept allowed (exchange.take_prefix 6)
  rw [ran] at last
  rw [reached] at middle
  have owners : state.owners = [20, 1] := Option.some.inj middle
  obtain ⟨content, _, same⟩ := reads 20 (by simp [owners])
  exact ⟨allowed, ⟨final, ran, Option.some.inj last, sound⟩,
    state, reached, owners, accounted, content, same⟩

end NativeThunks.TextOwnership
