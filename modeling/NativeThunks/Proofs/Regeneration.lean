import NativeThunks.Proofs.EmittedPositions
import NativeThunks.Samples

/-! Nothing of a rejected declaration reaches the output. The declarations that a generation emits
are generated into exactly the same units once everything else is gone: illegal members and members
with a taken name, members of refused types, and whole units that lost their file. -/
namespace NativeThunks.Regeneration
open PlanStages SelectionRuns PathOrder ContainerOutcomes EmittedPositions

variable {config : Config} {set : DeclarationSet}

/-- Declarations with one path are given with one container. -/
def Uniform (set : DeclarationSet) : Prop :=
  ∀ decl ∈ set.declarations, ∀ other ∈ set.declarations,
    decl.container.path = other.container.path → decl.container = other.container

/-- Generating the emitted part of a set again reproduces the units, without a diagnostic. -/
structure Reproduced (config : Config) (set : DeclarationSet) (generation : Generation) :
    Prop where
  /-- The emitted part leaves declarations out, but it neither adds nor reorders any. -/
  part : (emitted config set).declarations.Sublist set.declarations
  /-- It is what the units consist of: one member for every emitted declaration of the path. -/
  members : ∀ unit ∈ generation.units,
    unit.members = ((emitted config set).membersOf unit.path).map memberOf
  placed : ∀ decl ∈ (emitted config set).declarations,
    ∃ unit ∈ generation.units, unit.path = decl.container.path
  again : Generation.run config (emitted config set) = .ok { units := generation.units }

/-- The emitted members of a path are the selected ones, or none if the path has no unit. -/
theorem emitted_members (config : Config) (set : DeclarationSet) (path : String) :
    (emitted config set).membersOf path =
      if (written? config set set.paths path).isSome then
        (Selection.ofMembers config (set.membersOf path)).plans.map (·.decl) else [] := by
  rw [membersOf_emitted, ofSet_unit]

/-- Generating the selected members of an accepted container again gives the same unit and nothing
to report. -/
theorem generateContainer_selected {container : Container} (accepted : container.fault? = none)
    (members : List Declaration) :
    generateContainer config container
        ((Selection.ofMembers config members).plans.map (·.decl)) =
      (unitOfPlans? config container (Selection.ofMembers config members).plans, []) := by
  rw [generateContainer, accepted, ofMembers_kept]

/-- Alone, the emitted members of a path come to the unit that the path has in the generation of
everything, and there is nothing left to report. The first member that is left need not be the
first that was given. -/
theorem outcome_emitted (config : Config) (uniform : Uniform set) (path : String) :
    outcome config (emitted config set) path = (written? config set set.paths path, []) := by
  have members := emitted_members config set path
  cases present : written? config set set.paths path with
  | none =>
    rw [present] at members
    simp [outcome, members]
  | some unit =>
    rw [present, Option.isSome_some, if_pos rfl] at members
    obtain ⟨first, origin⟩ := standalone_some (written_some present).1
    cases listed : (Selection.ofMembers config (set.membersOf path)).plans.map (·.decl) with
    | nil => exact absurd (List.map_eq_nil_iff.mp listed) origin.unitOf.occupied
    | cons kept others =>
      have keptMember : kept ∈ set.membersOf path :=
        (plans_sublist config _).subset (listed ▸ List.mem_cons_self)
      obtain ⟨keptOccurs, keptPath⟩ := mem_membersOf.mp keptMember
      obtain ⟨firstOccurs, firstPath⟩ := first_mem origin.head
      have sameContainer : kept.container = first.container :=
        uniform kept keptOccurs first firstOccurs (keptPath.trans firstPath.symm)
      have ran : outcome config (emitted config set) path =
          generateContainer config kept.container (kept :: others) := by
        simp [outcome, members, listed]
      rw [ran, sameContainer, ← listed, generateContainer_selected origin.accepted,
        origin.selected]

/-- Among the emitted declarations no path keeps another one from its file: one of the two would
have no unit in the generation of everything. -/
theorem owner_emitted (config : Config) (uniform : Uniform set) (path : String) :
    owner? config (emitted config set) (emitted config set).paths path = none := by
  have standing : ∀ path, standalone? config (emitted config set) path =
      written? config set set.paths path := by
    intro path
    rw [standalone?, outcome_emitted config uniform]
  cases present : written? config set set.paths path with
  | none => simp [owner?, standing, present]
  | some unit =>
    obtain ⟨made, free⟩ := written_some present
    apply (owner_none_iff ((standing path).trans present)).mpr
    intro smaller _ less other found
    have earlier := (written_some ((standing smaller).symm.trans found)).1
    exact (owner_none_iff made).mp free smaller (standalone_mem_paths earlier) less other earlier

private theorem written_emitted (config : Config) (uniform : Uniform set) (path : String) :
    written? config (emitted config set) (emitted config set).paths path =
      written? config set set.paths path := by
  rw [written?, owner_emitted config uniform, standalone?, outcome_emitted config uniform]
  rfl

/-- The emitted declarations have the paths that have a unit. -/
theorem paths_emitted (config : Config) (set : DeclarationSet) :
    (emitted config set).paths =
      set.paths.filter fun path => (written? config set set.paths path).isSome := by
  apply (paths_sorted _).eq_of_mem_iff ((paths_sorted set).filter _)
  intro path
  rw [mem_paths_iff, emitted_members, List.mem_filter]
  cases present : written? config set set.paths path with
  | none => simp
  | some unit =>
    have made := (written_some present).1
    obtain ⟨_, origin⟩ := standalone_some made
    simp [standalone_mem_paths made, origin.unitOf.occupied]

/-- Generating the emitted declarations gives the units of everything and reports nothing. -/
theorem ofSet_emitted (config : Config) (uniform : Uniform set) :
    Generation.ofSet config (emitted config set) =
      { units := (Generation.ofSet config set).units } := by
  have units : (Generation.ofSet config (emitted config set)).units =
      (Generation.ofSet config set).units := by
    rw [ofSet_units, ofSet_units, paths_emitted, List.filterMap_filter]
    apply List.filterMap_congr
    intro path _
    rw [← paths_emitted, written_emitted config uniform]
    cases written? config set set.paths path <;> rfl
  have diagnostics : (Generation.ofSet config (emitted config set)).diagnostics.entries = [] := by
    rw [ofSet_diagnostics, List.flatMap_eq_nil_iff]
    intro path _
    have silent : findings config (emitted config set) path = [] := by
      rw [findings, outcome_emitted config uniform]
    rw [silent, dropReport_of_free (owner_emitted config uniform path), List.nil_append]
  exact congrArg₂ Generation.mk units (congrArg Diagnostics.mk diagnostics)

/-- With a usable configuration the emitted part of a uniform set is generated into the units of the
whole set, and nothing is reported about it. -/
theorem emitted_part_reproduced (set : DeclarationSet) (valid : config.isValid = true)
    (uniform : Uniform set) :
    ∃ generation, Generation.run config set = .ok generation ∧
      Reproduced config set generation := by
  refine ⟨_, run_of_valid valid set, ?_⟩
  constructor
  case part => exact emitted_sublist config set
  case members => exact fun unit member => unit_members member
  case placed =>
    intro decl member
    have occurs : decl ∈ (emitted config set).membersOf decl.container.path :=
      mem_membersOf.mpr ⟨member, rfl⟩
    rw [emitted_members] at occurs
    cases present : written? config set set.paths decl.container.path with
    | none =>
      rw [present] at occurs
      cases occurs
    | some unit =>
      have named := standalone_path (written_some present).1
      exact ⟨unit, mem_ofSet_units.mpr (named ▸ present), named⟩
  case again => rw [run_of_valid valid, ofSet_emitted config uniform]

theorem emitted_part_reproduced_mixed : Config.isValid {} = true ∧ Uniform Samples.mixedLegality ∧
    ∃ generation, Generation.run {} Samples.mixedLegality = .ok generation ∧
      Reproduced {} Samples.mixedLegality generation :=
  have valid : Config.isValid {} = true := by decide +kernel
  have uniform : Uniform Samples.mixedLegality := by
    unfold Uniform
    decide +kernel
  ⟨valid, uniform, emitted_part_reproduced Samples.mixedLegality valid uniform⟩

end NativeThunks.Regeneration
