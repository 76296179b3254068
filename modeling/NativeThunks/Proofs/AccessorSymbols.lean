import NativeThunks.Proofs.UnitForm
import NativeThunks.Samples

/-! Symbols of accessors. Behind one native type the accessor mark is what entry points differ in first, so
a getter and a setter never share one, whatever their members are called on either side. Slots are as
different as entry points. The functions of a getter and a setter are told apart for one member name,
because the escape of a reserved word adds less to the name than the mark of a setter does. -/
namespace NativeThunks.AccessorSymbols
open Naming UnitForm

variable {first second getter setter : Declaration}

/-- Behind one native type, entry points are told apart by what stands behind the type. -/
theorem entryPoint_eq_iff
    (type : first.container.nativeTypeName = second.container.nativeTypeName) :
    first.entryPoint = second.entryPoint ↔
      first.kind.accessorMark ++ first.nativeMemberName =
        second.kind.accessorMark ++ second.nativeMemberName := by
  have split (decl : Declaration) : decl.entryPoint.toList =
      (decl.container.nativeTypeName ++ "_").toList ++
        (decl.kind.accessorMark ++ decl.nativeMemberName).toList := by
    simp [Declaration.entryPoint]
  rw [← String.toList_inj, split first, split second, type, List.append_right_inj,
    String.toList_inj]

private theorem accessor_entryPoint_ne (reads : getter.kind = .propertyGetter)
    (writes : setter.kind = .propertySetter)
    (type : getter.container.nativeTypeName = setter.container.nativeTypeName) :
    getter.entryPoint ≠ setter.entryPoint := by
  rw [Ne, entryPoint_eq_iff type, reads, writes]
  intro same
  have marks := congrArg (List.head? ∘ String.toList) same
  simp [MemberKind.accessorMark] at marks

private theorem length_escapeReserved_le (text : String) :
    (escapeReserved text).length ≤ text.length + 2 := by
  have underscore : "_".length = 1 := rfl
  have raw : "r#".length = 2 := rfl
  unfold escapeReserved
  split
  · rw [String.length_append, underscore]
    omega
  · split
    · rw [String.length_append, raw, Nat.add_comm]
    · exact Nat.le_add_right _ _

/-- No escape is as long as the mark of a setter. -/
theorem escapeReserved_ne_setter (text : String) : escapeReserved text ≠ "set_" ++ text := by
  intro same
  have shorter := length_escapeReserved_le text
  have setter : ("set_" ++ text).length = 4 + text.length :=
    String.length_append _ _
  rw [same, setter] at shorter
  omega

private theorem accessor_functionName_ne (reads : getter.kind = .propertyGetter)
    (writes : setter.kind = .propertySetter) (name : getter.name = setter.name) :
    getter.functionName ≠ setter.functionName := by
  simp only [Declaration.functionName, reads, writes, name]
  exact escapeReserved_ne_setter _

/-- A getter and a setter of one native type have different entry points and different slots, whatever
their names and native names are. A getter and a setter of one name have different functions, whatever
their types are. Two members of any kind share a slot exactly when they share an entry point. -/
theorem accessors_never_clash (fallback : String) :
    (∀ getter setter : Declaration, getter.kind = .propertyGetter → setter.kind = .propertySetter →
      getter.container.nativeTypeName = setter.container.nativeTypeName →
        (MemberSymbols.ofDeclaration getter fallback).entryPoint ≠
            (MemberSymbols.ofDeclaration setter fallback).entryPoint ∧
          (MemberSymbols.ofDeclaration getter fallback).slot ≠
            (MemberSymbols.ofDeclaration setter fallback).slot) ∧
    (∀ getter setter : Declaration, getter.kind = .propertyGetter → setter.kind = .propertySetter →
      getter.name = setter.name →
        (MemberSymbols.ofDeclaration getter fallback).functionName ≠
          (MemberSymbols.ofDeclaration setter fallback).functionName) ∧
    ∀ first second : Declaration,
      (MemberSymbols.ofDeclaration first fallback).slot =
          (MemberSymbols.ofDeclaration second fallback).slot ↔
        (MemberSymbols.ofDeclaration first fallback).entryPoint =
          (MemberSymbols.ofDeclaration second fallback).entryPoint := by
  refine ⟨?symbols, ?functions, ?slots⟩
  case symbols =>
    intro getter setter reads writes type
    have apart := accessor_entryPoint_ne reads writes type
    exact ⟨apart, slotName_injective.ne apart⟩
  case functions =>
    intro getter setter reads writes name
    exact accessor_functionName_ne reads writes name
  case slots =>
    intro first second
    exact slotName_injective.eq_iff

/-- The getter of a member that is called like the setter of another, on a type with an underscore. -/
theorem accessors_never_clash_setName :
    let container := { Samples.camera with nativeName := some "Gfx_Camera" }
    let getter := Declaration.getter container "SetName" .bool
    let setter := { Declaration.setter container "Name" .bool with nativeName := some "" }
    getter.entryPoint = "Gfx_Camera_GetSetName" ∧ setter.entryPoint = "Gfx_Camera_Set" ∧
      slotName getter.entryPoint ≠ slotName setter.entryPoint := by
  intro container getter setter
  obtain ⟨apart, -, -⟩ := accessors_never_clash defaultReceiver
  exact ⟨by decide +kernel, by decide +kernel, (apart getter setter rfl rfl rfl).2⟩

/-- The native type matters: an underscore in it can stand for the one that ends another type. -/
example :
    (Declaration.getter (.ofPath "Gfx") "Camera_SetName" .bool).entryPoint =
      (Declaration.setter (.ofPath "Gfx_GetCamera") "Name" .bool).entryPoint := by decide +kernel

/-- The member name matters as well: the mark of a setter may belong to the name of a getter. -/
example :
    (Declaration.getter Samples.camera "SetName" .bool).functionName =
      (Declaration.setter Samples.camera "Name" .bool).functionName := by decide +kernel

end NativeThunks.AccessorSymbols
