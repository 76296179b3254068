import NativeThunks.Layout

/-! Wrapper structures for scalar arguments. A unit has one for every distinct native type, numbered
in the order of first use, and defines each once. Wrappers are kept in a list, and a map leads from a
type to the number of its wrapper. -/
namespace NativeThunks

/-- A wrapper structure and the native type inside. -/
structure Wrapper where
  name : String
  underlying : String
deriving DecidableEq, Repr

def wrapperName (index : Nat) : String := "__ParamWrapper" ++ toString index

/-- The wrappers of a unit and the map from their types to their numbers are in step: the map has a
type under a number exactly where the wrapper of that number is the one for the type, and every
wrapper has the name of its number. -/
structure WrapperTable.InStep (entries : List Wrapper) (byType : List (String × Nat)) : Prop where
  listed : ∀ type index,
    byType.lookup type = some index ↔ entries[index]?.map (·.underlying) = some type
  named : ∀ index wrapper, entries[index]? = some wrapper → wrapper.name = wrapperName index

namespace WrapperTable.InStep
variable {entries : List Wrapper} {byType : List (String × Nat)}

theorem empty : InStep [] [] := ⟨by simp, by simp⟩

/-- The number of a type in the map is that of a wrapper. -/
theorem inside (inStep : InStep entries byType) {type : String} {index : Nat}
    (found : byType.lookup type = some index) : index < entries.length := by
  have entry := (inStep.listed type index).mp found
  by_cases less : index < entries.length
  · exact less
  · rw [List.getElem?_eq_none (Nat.le_of_not_lt less)] at entry
    cases entry

private theorem getElem?_snoc (wrapper : Wrapper) (index : Nat) :
    (entries ++ [wrapper])[index]? = if index < entries.length then entries[index]?
      else if index = entries.length then some wrapper else none := by
  rw [List.getElem?_append]
  split
  · rfl
  · rename_i behind
    rw [List.getElem?_singleton]
    split <;> split <;> first | rfl | omega

/-- A type that is not in the map may get the next wrapper. -/
theorem snoc (inStep : InStep entries byType) {type : String}
    (fresh : byType.lookup type = none) :
    InStep (entries ++ [⟨wrapperName entries.length, type⟩])
      ((type, entries.length) :: byType) := by
  constructor
  case listed =>
    intro other index
    have known := inStep.listed other index
    rw [List.lookup_cons, getElem?_snoc]
    by_cases same : other = type
    · subst same
      simp only [beq_self_eq_true]
      split
      · rename_i less
        rw [← known, fresh]
        simp [Nat.ne_of_gt less]
      · split
        · simp [*]
        · simp [Ne.symm ‹_›]
    · simp only [beq_eq_false_iff_ne.mpr same]
      split
      · exact known
      · rename_i behind
        rw [List.getElem?_eq_none (Nat.le_of_not_lt behind)] at known
        split <;> simp [known, Ne.symm same]
  case named =>
    intro index wrapper found
    rw [getElem?_snoc] at found
    split at found
    · exact inStep.named index wrapper found
    · split at found
      · cases found
        simp [*]
      · cases found

end WrapperTable.InStep

/-- The wrappers of a unit in the order of their numbers, and the map by which the wrapper of a type
is found. -/
structure WrapperTable where
  entries : List Wrapper := []
  byType : List (String × Nat) := []
  inStep : WrapperTable.InStep entries byType := by exact WrapperTable.InStep.empty
deriving DecidableEq, Repr

namespace WrapperTable

/-- The name of the wrapper for a type, which is new unless the type has one. -/
def intern (table : WrapperTable) (type : String) : String × WrapperTable :=
  match found : table.byType.lookup type with
  | some index =>
    have inside := table.inStep.inside found
    (table.entries[index].name, table)
  | none =>
    (wrapperName table.entries.length, {
      entries := table.entries ++ [⟨wrapperName table.entries.length, type⟩]
      byType := (type, table.entries.length) :: table.byType
      inStep := table.inStep.snoc found })

def size (table : WrapperTable) : Nat := table.entries.length

def isEmpty (table : WrapperTable) : Bool := table.entries.isEmpty

/-- The native types that have a wrapper. -/
def types (table : WrapperTable) : List String := table.entries.map (·.underlying)

end WrapperTable

/-- The definition of a wrapper and its conversion from the native type. -/
def Wrapper.definition (wrapper : Wrapper) : List Line := [
  .blank,
  .text "#[doc(hidden)]",
  .text "#[repr(C)]",
  .text "#[derive(Clone, Copy)]",
  .opening ("struct " ++ wrapper.name ++ " \x7b"),
  .text ("data: " ++ wrapper.underlying ++ ","),
  .closing,
  .blank,
  .opening ("impl ::core::convert::From<" ++ wrapper.underlying ++ "> for " ++ wrapper.name ++
    " \x7b"),
  .text "#[inline(always)]",
  .opening ("fn from(data: " ++ wrapper.underlying ++ ") -> Self \x7b"),
  .text "Self \x7b data \x7d",
  .closing,
  .closing]

def WrapperTable.definitions (table : WrapperTable) : List Line :=
  table.entries.flatMap Wrapper.definition

end NativeThunks
