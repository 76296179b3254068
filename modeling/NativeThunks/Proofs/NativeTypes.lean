import NativeThunks.Proofs.EmittedPositions
import NativeThunks.Samples

/-! The native type of a unit. A unit takes it from the first declaration of its path, and every
member takes the one in its entry point from the container that its own declaration carries. The two
are the same text exactly when no emitted declaration disagrees with the first of its path; nothing
else in the containers of a path has to agree. -/
namespace NativeThunks.NativeTypes
open SelectionRuns PathOrder ContainerOutcomes EmittedPositions

variable {config : Config} {set : DeclarationSet}

/-- The entry point of a member of a native type, by the member's kind. -/
def entryPointIn (nativeType : String) : MemberKind → String → String
  | .method, member => nativeType ++ "_" ++ member
  | .propertyGetter, member => nativeType ++ "_Get" ++ member
  | .propertySetter, member => nativeType ++ "_Set" ++ member

/-- A member is bound to a native type when its entry point is that of the declared member in that
type. -/
def BoundTo (nativeType : String) (decl : Declaration) (member : EmittedMember) : Prop :=
  member.entryPoint = entryPointIn nativeType decl.kind decl.nativeMemberName

/-- The first declaration of a path speaks for a declaration that names the same native type. -/
def SpokenFor (set : DeclarationSet) (decl : Declaration) : Prop :=
  ∀ first ∈ (set.membersOf decl.container.path).head?,
    first.container.nativeTypeName = decl.container.nativeTypeName

instance (set : DeclarationSet) (decl : Declaration) : Decidable (SpokenFor set decl) :=
  inferInstanceAs (Decidable (∀ first ∈ (set.membersOf decl.container.path).head?,
    first.container.nativeTypeName = decl.container.nativeTypeName))

private theorem entryPoint_eq (decl : Declaration) :
    decl.entryPoint =
      entryPointIn decl.container.nativeTypeName decl.kind decl.nativeMemberName := by
  apply String.toList_inj.mp
  unfold Declaration.entryPoint entryPointIn
  cases decl.kind <;> simp [MemberKind.accessorMark]

/-- The member's own name is the end of its entry point, so the native type can be read off. -/
theorem entryPointIn_injective (kind : MemberKind) (member : String) :
    Function.Injective (entryPointIn · kind member) := by
  intro first second same
  have lists := congrArg String.toList same
  cases kind <;>
    exact String.toList_inj.mp (by simpa [entryPointIn] using lists)

private theorem boundTo_iff (nativeType : String) (decl : Declaration) :
    BoundTo nativeType decl (memberOf decl) ↔ nativeType = decl.container.nativeTypeName := by
  rw [BoundTo, memberOf, entryPoint_eq, (entryPointIn_injective _ _).eq_iff, eq_comm]

/-- A unit's members are those of its emitted declarations, so all of them are bound to its native
type exactly when all of these declarations name it. -/
theorem unit_bound_iff {unit : GeneratedUnit}
    (member : unit ∈ (Generation.ofSet config set).units) :
    List.Forall₂ (BoundTo unit.nativeType) ((emitted config set).membersOf unit.path)
        unit.members ↔
      ∀ decl ∈ (emitted config set).membersOf unit.path,
        unit.nativeType = decl.container.nativeTypeName := by
  rw [unit_members member, List.forall₂_map_right_iff, List.forall₂_same]
  exact forall₂_congr fun decl _ => boundTo_iff unit.nativeType decl

/-- The native type of a unit is that of the first declaration of its path. -/
theorem unit_nativeType {unit : GeneratedUnit}
    (member : unit ∈ (Generation.ofSet config set).units) :
    ∃ first, (set.membersOf unit.path).head? = some first ∧
      unit.nativeType = first.container.nativeTypeName := by
  obtain ⟨first, origin⟩ := unit_origin member
  exact ⟨first, origin.head, origin.unitOf.nativeType⟩

/-- An emitted declaration is in the unit of its path. -/
theorem emitted_unit {decl : Declaration} (member : decl ∈ (emitted config set).declarations) :
    ∃ unit ∈ (Generation.ofSet config set).units, unit.path = decl.container.path := by
  have listed : decl ∈ (emitted config set).membersOf decl.container.path :=
    mem_membersOf.mpr ⟨member, rfl⟩
  rw [membersOf_emitted] at listed
  split at listed
  · rename_i present
    obtain ⟨unit, looked⟩ := Option.isSome_iff_exists.mp present
    rw [ofSet_unit] at looked
    have named := standalone_path (written_some looked).1
    exact ⟨unit, mem_ofSet_units.mpr (named ▸ looked), named⟩
  · cases listed

/-- With a usable configuration every set is generated, and all members of all units are bound to
the native type of their unit exactly when every emitted declaration names the same native type as
the first declaration of its path. -/
theorem members_bound_iff (set : DeclarationSet) (valid : config.isValid = true) :
    ∃ generation, Generation.run config set = .ok generation ∧
      ((∀ unit ∈ generation.units, List.Forall₂ (BoundTo unit.nativeType)
          ((emitted config set).membersOf unit.path) unit.members) ↔
        ∀ decl ∈ (emitted config set).declarations, SpokenFor set decl) := by
  refine ⟨_, run_of_valid valid set, ?_⟩
  constructor
  · intro bound decl emittedHere first head
    obtain ⟨unit, member, named⟩ := emitted_unit emittedHere
    obtain ⟨speaker, spoken, type⟩ := unit_nativeType member
    obtain rfl : speaker = first := Option.some.inj (spoken.symm.trans (named ▸ head))
    rw [← type]
    exact (unit_bound_iff member).mp (bound unit member) decl
      (mem_membersOf.mpr ⟨emittedHere, named.symm⟩)
  · intro agreed unit member
    obtain ⟨first, head, type⟩ := unit_nativeType member
    apply (unit_bound_iff member).mpr
    intro decl listed
    obtain ⟨emittedHere, named⟩ := mem_membersOf.mp listed
    rw [type]
    exact agreed decl emittedHere first (named ▸ head)

theorem members_bound_engine : Config.isValid {} = true ∧
    ∃ generation, Generation.run {} Samples.engine = .ok generation ∧
      ∀ unit ∈ generation.units, List.Forall₂ (BoundTo unit.nativeType)
        ((emitted {} Samples.engine).membersOf unit.path) unit.members := by
  have valid : Config.isValid {} = true := by decide +kernel
  obtain ⟨generation, ran, bound⟩ := members_bound_iff Samples.engine valid
  have agreed : ∀ decl ∈ Samples.engine.declarations, SpokenFor Samples.engine decl := by
    decide +kernel
  exact ⟨valid, generation, ran, bound.mpr fun decl emittedHere =>
    agreed decl ((emitted_sublist {} Samples.engine).subset emittedHere)⟩

/-- The second of two declarations does not repeat the native name that the first one gives their
container. Both are emitted, and the second is not bound to the native type of their unit. -/
theorem member_of_other_native_type :
    let camera := Container.ofPath "engine::Camera"
    let focus := Declaration.method camera "Focus"
    let set : DeclarationSet := { declarations := [
      .method { camera with nativeName := some "Cam" } "Render", focus] }
    Config.isValid {} = true ∧ ∃ generation, Generation.run {} set = .ok generation ∧
      ∃ unit ∈ generation.units, unit.nativeType = "Cam" ∧
        ∃ member ∈ unit.members, member.entryPoint = "Camera_Focus" ∧
          ¬BoundTo unit.nativeType focus member := by
  intro camera focus set
  have valid : Config.isValid {} = true := by decide +kernel
  have units : (Generation.ofSet {} set).units.map (fun unit => (unit.nativeType, unit.members)) =
      [("Cam", set.declarations.map memberOf)] := by decide +kernel
  obtain ⟨unit, _, found, same, _⟩ := List.map_eq_cons_iff.mp units
  obtain ⟨type, members⟩ := Prod.mk.inj same
  refine ⟨valid, _, run_of_valid valid set, unit, found ▸ List.mem_cons_self, type,
    memberOf focus, members ▸ by simp [set], by decide, ?_⟩
  rw [boundTo_iff, type]
  decide

end NativeThunks.NativeTypes
