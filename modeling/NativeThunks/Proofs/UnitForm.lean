import NativeThunks.Proofs.EmittedPositions
import NativeThunks.Samples

/-! The form of generated units. Across a generation the paths of the units increase and no two
units share a file; within a unit no two members share an entry point, a slot or a function name, and
the members are some of the declarations of the unit's path, in their order. -/
namespace NativeThunks.UnitForm
open SelectionRuns PathOrder ContainerOutcomes EmittedPositions

variable {config : Config} {set : DeclarationSet}

/-- What holds of the units of every generation of a set. -/
structure WellFormed (set : DeclarationSet) (generation : Generation) : Prop where
  /-- The paths increase by their bytes, so no container has two units. -/
  increasing : generation.units.Pairwise fun earlier later =>
    Text.utf8Bytes earlier.path < Text.utf8Bytes later.path
  files : (generation.units.map (·.fileName)).Nodup
  fileName : ∀ unit ∈ generation.units, unit.fileName = unit.name ++ "_binding.rs"
  occupied : ∀ unit ∈ generation.units, unit.members ≠ []
  entryPoints : ∀ unit ∈ generation.units, (unit.members.map (·.entryPoint)).Nodup
  slots : ∀ unit ∈ generation.units, (unit.members.map (·.slot)).Nodup
  functionNames : ∀ unit ∈ generation.units, (unit.members.map (·.functionName)).Nodup
  /-- Members are declarations of the unit's path, field by field and in their order. -/
  ordered : ∀ unit ∈ generation.units,
    unit.members.Sublist ((set.membersOf unit.path).map memberOf)

/-- Entry points are spliced verbatim between the same two texts, so slots tell them apart. -/
theorem slotName_injective : Function.Injective slotName := by
  intro first second same
  have lists := congrArg String.toList same
  simp only [slotName, String.toList_append] at lists
  exact String.toList_inj.mp (List.append_cancel_left (List.append_cancel_right lists))

/-- Units are in the order of their paths, and each has a file of its own. -/
theorem units_pairwise (config : Config) (set : DeclarationSet) :
    (Generation.ofSet config set).units.Pairwise fun earlier later =>
      earlier.path < later.path ∧ earlier.fileName ≠ later.fileName := by
  rw [ofSet_units, List.pairwise_filterMap]
  refine List.Pairwise.imp_of_mem (fun {smaller path} occurs _ less => ?_) (paths_sorted set)
  intro earlier first later second
  obtain ⟨firstMade, _⟩ := written_some first
  obtain ⟨secondMade, free⟩ := written_some second
  rw [standalone_path firstMade, standalone_path secondMade]
  exact ⟨less, (owner_none_iff secondMade).mp free smaller occurs less earlier firstMade⟩

/-- The members of a unit are those of sound plans, and there are some. -/
private theorem members_of_unit {unit : GeneratedUnit}
    (member : unit ∈ (Generation.ofSet config set).units) :
    ∃ plans, plans ≠ [] ∧ Sound config plans ∧ unit.members = plans.map .ofPlan := by
  obtain ⟨made, _⟩ := written_some (mem_ofSet_units.mp member)
  obtain ⟨_, origin⟩ := standalone_some made
  exact ⟨_, origin.unitOf.occupied, ofMembers_sound config _, origin.unitOf.members⟩

private theorem slots_eq (plans : List MemberPlan) (sound : Sound config plans) :
    (plans.map EmittedMember.ofPlan).map (·.slot) =
      (plans.map (·.symbols.entryPoint)).map slotName := by
  rw [List.map_map, List.map_map]
  apply List.map_congr_left
  intro plan planned
  rw [(sound.legal plan planned).2]
  rfl

/-- Every set with a usable configuration is generated into well-formed units. -/
theorem units_well_formed (set : DeclarationSet) (valid : config.isValid = true) :
    ∃ generation, Generation.run config set = .ok generation ∧ WellFormed set generation := by
  refine ⟨_, run_of_valid valid set, ?_⟩
  constructor
  case increasing => exact (units_pairwise config set).imp fun both => utf8Bytes_lt both.1
  case files =>
    rw [List.Nodup, List.pairwise_map]
    exact (units_pairwise config set).imp fun both => both.2
  case fileName =>
    intro unit member
    obtain ⟨made, _⟩ := written_some (mem_ofSet_units.mp member)
    obtain ⟨first, origin⟩ := standalone_some made
    rw [origin.unitOf.fileName, origin.unitOf.name]
    rfl
  case occupied =>
    intro unit member
    obtain ⟨plans, occupied, _, members⟩ := members_of_unit member
    rw [members]
    intro empty
    exact occupied (List.map_eq_nil_iff.mp empty)
  case entryPoints =>
    intro unit member
    obtain ⟨plans, _, sound, members⟩ := members_of_unit member
    rw [members, List.map_map]
    exact sound.entryPoints
  case slots =>
    intro unit member
    obtain ⟨plans, _, sound, members⟩ := members_of_unit member
    rw [members, slots_eq plans sound]
    exact sound.entryPoints.map slotName_injective
  case functionNames =>
    intro unit member
    obtain ⟨plans, _, sound, members⟩ := members_of_unit member
    rw [members, List.map_map]
    exact sound.functionNames
  case ordered =>
    intro unit member
    rw [unit_members member]
    exact ((emitted_sublist config set).filter _).map memberOf

theorem units_well_formed_engine : Config.isValid {} = true ∧
    ∃ generation, Generation.run {} Samples.engine = .ok generation ∧
      WellFormed Samples.engine generation :=
  have valid : Config.isValid {} = true := by decide +kernel
  ⟨valid, units_well_formed Samples.engine valid⟩

end NativeThunks.UnitForm
