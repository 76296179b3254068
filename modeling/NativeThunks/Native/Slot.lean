/-! Slots: each caches what one native entry point resolves to. A slot starts out empty and is
filled by the first call that finds the entry point; a failure is not remembered. -/
namespace NativeThunks.Native

/-- Finds native functions by name. -/
abbrev Resolver (α : Type) := String → Option α

/-- A resolver for a table of names, of which the first counts. -/
def Resolver.ofTable {α : Type} (table : List (String × α)) : Resolver α := fun name =>
  (table.find? (·.1 == name)).map (·.2)

/-- The name that the running process looks for: one final null character may be left out. -/
def exportedName (name : String) : String :=
  match name.toList.reverse with
  | '\x00' :: rest => String.ofList rest.reverse
  | _ => name

/-- A resolver for what the running process exports. -/
def Resolver.ofProcess {α : Type} (exported : List (String × α)) : Resolver α := fun name =>
  Resolver.ofTable exported (exportedName name)

/-- An entry point that no lookup finds. -/
structure EntryPointNotFound where
  entryPoint : String
deriving DecidableEq, Repr

def EntryPointNotFound.message (fault : EntryPointNotFound) : String :=
  "Entry point not found: " ++ fault.entryPoint

/-- The cache of one entry point. -/
structure Slot (α : Type) where
  held : Option α := none
deriving DecidableEq, Repr

namespace Slot
variable {α : Type}

def isResolved (slot : Slot α) : Bool := slot.held.isSome

/-- What one call leads to. -/
structure Resolution (α : Type) where
  result : Except EntryPointNotFound α
  /-- The slot after the call. -/
  slot : Slot α
  /-- How often the resolver was asked. -/
  lookups : Nat

/-- One call: a filled slot answers by itself, an empty one asks the resolver. -/
def resolve (slot : Slot α) (resolver : Resolver α) (entryPoint : String) : Resolution α :=
  match slot.held with
  | some found => ⟨.ok found, slot, 0⟩
  | none =>
    match resolver entryPoint with
    | some found => ⟨.ok found, ⟨some found⟩, 1⟩
    | none => ⟨.error ⟨entryPoint⟩, slot, 1⟩

end Slot
end NativeThunks.Native
