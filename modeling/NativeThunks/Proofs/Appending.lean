import NativeThunks.Proofs.FileClaims
import NativeThunks.Proofs.SelectionRuns
import NativeThunks.Proofs.SourceSections
import NativeThunks.Samples

/-! Appending a declaration to a set. The declaration joins the container of its path behind all
others, so it takes nothing away from them: numbers of wrappers, texts of thunks and files stay what
they were. What it adds stands at the end of its container's unit, and if it adds nothing, that unit
is the same. -/
namespace NativeThunks.Appending
open PlanStages SelectionRuns PathOrder ContainerOutcomes FileClaims WrapperTables
open RenderedLines SourceSections

variable {config : Config} {set : DeclarationSet} {decl : Declaration}

/-- A set with one more declaration at its end. -/
def appended (set : DeclarationSet) (decl : Declaration) : DeclarationSet :=
  ⟨set.declarations ++ [decl]⟩

private theorem membersOf_appended_self (set : DeclarationSet) (decl : Declaration) :
    (appended set decl).membersOf decl.container.path =
      set.membersOf decl.container.path ++ [decl] := by
  simp [appended, DeclarationSet.membersOf]

private theorem membersOf_appended_other {path : String} (other : path ≠ decl.container.path) :
    (appended set decl).membersOf path = set.membersOf path := by
  simp [appended, DeclarationSet.membersOf, other.symm]

/-- The first declaration of a path still speaks for its container. -/
theorem head_appended {first : Declaration}
    (head : (set.membersOf decl.container.path).head? = some first) :
    ((appended set decl).membersOf decl.container.path).head? = some first := by
  obtain ⟨rest, members⟩ := List.head?_eq_some_iff.mp head
  rw [membersOf_appended_self, members, List.cons_append, List.head?_cons]

private theorem paths_appended (taken : decl.container.path ∈ set.paths) :
    (appended set decl).paths = set.paths := by
  apply (paths_sorted _).eq_of_mem_iff (paths_sorted set)
  intro path
  by_cases same : path = decl.container.path
  · subst same
    rw [mem_paths_iff, membersOf_appended_self]
    exact iff_of_true (by simp) taken
  · rw [mem_paths_iff, mem_paths_iff, membersOf_appended_other same]

/-- The empty line between two functions belongs to the later one. -/
theorem functionLines_prefix (thunks more : List Thunk) :
    functionLines thunks <+: functionLines (thunks ++ more) := by
  induction thunks with
  | nil => exact List.nil_prefix
  | cons thunk rest ih =>
    cases rest with
    | nil =>
      have alone : functionLines [thunk] = thunk.function := by simp [functionLines]
      cases more with
      | nil => exact List.prefix_refl _
      | cons next more =>
        rw [List.singleton_append, functionLines_cons_cons, alone]
        exact List.prefix_append _ _
    | cons next rest =>
      rw [List.cons_append, List.cons_append, functionLines_cons_cons, functionLines_cons_cons]
      exact (List.prefix_append_right_inj _).mpr ((List.prefix_cons_inj _).mpr ih)

section
variable {thunks : List Thunk} (each : ∀ thunk ∈ thunks, BalancedThunk thunk)
include each

/-- More slots are written behind those that are there. -/
theorem slotSection_append (more : List Thunk) :
    slotSection (thunks ++ more) = slotSection thunks ++ slotSection more := by
  rw [slotSection, List.flatMap_append, render_append (balanced_slots each)]
  rfl

private theorem functionSection_append (more : List Thunk) :
    ∃ rest, functionSection (thunks ++ more) = functionSection thunks ++ rest := by
  obtain ⟨rest, lines⟩ := functionLines_prefix thunks more
  rw [functionSection, ← lines, render_append (balanced_functions each)]
  exact ⟨_, rfl⟩

end

/-- The thunks of the members that are selected on a path. -/
def thunksOf (config : Config) (set : DeclarationSet) (path : String) : List Thunk :=
  (ThunkList.ofPlans config (Selection.ofMembers config (set.membersOf path)).plans).thunks

/-- A unit takes no further member from a declaration that is illegal, or whose entry point or
function name one of its members has. -/
def LeftOut (config : Config) (unit : GeneratedUnit) (decl : Declaration) : Prop :=
  (∃ faults, decl.plan config = .error faults) ∨
    ∃ member ∈ unit.members,
      member.entryPoint = decl.entryPoint ∨ member.functionName = decl.functionName

/-- Leaving out a declaration and keeping it are the only possibilities. -/
theorem keeps_iff_not_leftOut (config : Config) (decl : Declaration) {selection : Selection}
    {unit : GeneratedUnit} (members : unit.members = selection.plans.map .ofPlan) :
    keeps config selection decl = true ↔ ¬LeftOut config unit decl := by
  constructor
  · rintro kept (⟨faults, failed⟩ | ⟨member, listed, same⟩)
    · exact (add_of_keeps kept).1.not_refused (plan_error failed)
    · obtain ⟨_, fresh, _⟩ := add_of_keeps kept
      rw [members] at listed
      obtain ⟨earlier, occurs, rfl⟩ := List.mem_map.mp listed
      exact same.elim (fresh.entryPoint earlier occurs) (fresh.functionName earlier occurs)
  · intro welcome
    rcases plan_cases config decl with ⟨passed, _⟩ | ⟨faults, _, failed⟩
    · have unused : ∀ earlier ∈ selection.plans, ¬(earlier.symbols.entryPoint = decl.entryPoint ∨
          earlier.symbols.functionName = decl.functionName) := by
        intro earlier occurs same
        refine welcome (.inr ⟨.ofPlan earlier, ?_, same⟩)
        rw [members]
        exact List.mem_map_of_mem occurs
      exact keeps_of_fresh passed ⟨fun earlier occurs same => unused earlier occurs (.inl same),
        fun earlier occurs same => unused earlier occurs (.inr same)⟩
    · exact absurd (.inl ⟨faults, failed⟩) welcome

/-- What becomes of the unit of a path when a declaration of the path is appended. -/
structure Grown (config : Config) (set : DeclarationSet) (decl : Declaration)
    (unit grown : GeneratedUnit) : Prop where
  fileName : grown.fileName = unit.fileName
  members : unit.members <+: grown.members
  oneMore : grown.members.length ≤ unit.members.length + 1
  wrappers : unit.wrappers <+: grown.wrappers
  source : unit.source =
    assembled config.emitHeader unit (thunksOf config set decl.container.path)
  grownSource : grown.source = assembled config.emitHeader grown
    (thunksOf config (appended set decl) decl.container.path)
  slots : ∃ more, slotSection (thunksOf config (appended set decl) decl.container.path) =
    slotSection (thunksOf config set decl.container.path) ++ more
  functions : ∃ more, functionSection (thunksOf config (appended set decl) decl.container.path) =
    functionSection (thunksOf config set decl.container.path) ++ more
  unchanged : LeftOut config unit decl → grown = unit
  joined : ¬LeftOut config unit decl → grown.members = unit.members ++ [memberOf decl]

/-- The declaration is judged last, so the plans of the others are what they were. -/
theorem plans_appended (config : Config) (set : DeclarationSet) (decl : Declaration) :
    (Selection.ofMembers config ((appended set decl).membersOf decl.container.path)).plans =
      (Selection.ofMembers config (set.membersOf decl.container.path)).plans ++
        if keeps config (Selection.ofMembers config (set.membersOf decl.container.path)) decl then
          [.ofDeclaration decl config] else [] := by
  rw [membersOf_appended_self, ofMembers_snoc, add_plans]

private theorem thunksOf_appended (config : Config) (set : DeclarationSet) (decl : Declaration) :
    ∃ more, thunksOf config (appended set decl) decl.container.path =
      thunksOf config set decl.container.path ++ more := by
  rw [thunksOf, plans_appended]
  obtain ⟨more, thunks⟩ := (ofPlans_extends config _ _).1
  exact ⟨more, thunks.symm⟩

/-- More plans leave the file and the wrappers of a unit alone, and its members in front. -/
theorem unit_grows {container : Container} {plans more : List MemberPlan}
    {unit grown : GeneratedUnit} (made : unitOfPlans? config container plans = some unit)
    (grownMade : unitOfPlans? config container (plans ++ more) = some grown) :
    grown.fileName = unit.fileName ∧ grown.members = unit.members ++ more.map .ofPlan ∧
      unit.wrappers <+: grown.wrappers := by
  have unitOf := unitOfPlans_some made
  have grownOf := unitOfPlans_some grownMade
  refine ⟨grownOf.fileName.trans unitOf.fileName.symm, ?_, ?_⟩
  · rw [grownOf.members, unitOf.members, List.map_append]
  · rw [(unitOfPlans_thunks made).1, (unitOfPlans_thunks grownMade).1]
    exact (ofPlans_extends config plans more).2.entries

/-- Alone, the path of the declaration keeps its unit, and the unit grows. The first declaration
still speaks for the container, so the container is accepted again. -/
theorem standalone_appended {unit : GeneratedUnit}
    (made : standalone? config set decl.container.path = some unit) :
    ∃ grown, standalone? config (appended set decl) decl.container.path = some grown ∧
      Grown config set decl unit grown := by
  obtain ⟨first, origin⟩ := standalone_some made
  have occupied := origin.unitOf.occupied
  have kept := keeps_iff_not_leftOut config decl origin.unitOf.members
  have remade := standalone_of_accepted config (head_appended origin.head) origin.accepted
  obtain ⟨grown, grownMade⟩ : ∃ grown, standalone? config (appended set decl)
      decl.container.path = some grown := by
    rw [← Option.isSome_iff_exists, remade, unitOfPlans_isSome, plans_appended]
    simp [occupied]
  have selected := remade.symm.trans grownMade
  have source := unit_source origin.selected
  have grownSource := unit_source selected
  have balanced := ofPlans_balanced config
    (Selection.ofMembers config (set.membersOf decl.container.path)).plans
  obtain ⟨more, thunks⟩ := thunksOf_appended config set decl
  rw [plans_appended] at selected
  obtain ⟨fileName, members, wrappers⟩ := unit_grows origin.selected selected
  refine ⟨grown, grownMade, ?_⟩
  constructor
  case fileName => exact fileName
  case members => exact members ▸ List.prefix_append _ _
  case oneMore =>
    rw [members, List.length_append, List.length_map]
    split <;> simp
  case wrappers => exact wrappers
  case source => exact source
  case grownSource => exact grownSource
  case slots => exact ⟨_, thunks ▸ slotSection_append balanced more⟩
  case functions => exact thunks ▸ functionSection_append balanced more
  case unchanged =>
    intro leftOut
    rw [if_neg fun keep => kept.mp keep leftOut, List.append_nil, origin.selected] at selected
    exact (Option.some.inj selected).symm
  case joined =>
    intro welcome
    rw [members, if_pos (kept.mpr welcome)]
    rfl

section
variable {unit : GeneratedUnit} (made : standalone? config set decl.container.path = some unit)
include made

/-- Every path wants the file that it wanted before. -/
theorem file_appended (path : String) :
    file? config (appended set decl) path = file? config set path := by
  unfold file?
  by_cases same : path = decl.container.path
  · subst same
    obtain ⟨grown, grownMade, growth⟩ := standalone_appended made
    rw [made, grownMade, Option.map_some, Option.map_some, growth.fileName]
  · rw [standalone?, standalone?, outcome_congr (membersOf_appended_other same)]

/-- What a path has among the others depends on what it has alone. -/
theorem written_appended (path : String) :
    written? config (appended set decl) (appended set decl).paths path =
      if (owner? config set set.paths path).isSome then none
      else standalone? config (appended set decl) path := by
  rw [written?, paths_appended (standalone_mem_paths made),
    owner_isSome_congr (file_appended made)]

end

/-- If the path of a declaration has a unit, appending the declaration leaves the units of all other
paths alone, and leaves everything that is there in the unit of its path. -/
theorem appended_unit_grows (set : DeclarationSet) (decl : Declaration)
    (valid : config.isValid = true) :
    ∃ generation extended, Generation.run config set = .ok generation ∧
      Generation.run config (appended set decl) = .ok extended ∧
      ∀ unit, generation.unit? decl.container.path = some unit →
        (∃ grown, extended.unit? decl.container.path = some grown ∧
          Grown config set decl unit grown) ∧
        ∀ path, path ≠ decl.container.path → extended.unit? path = generation.unit? path := by
  refine ⟨_, _, run_of_valid valid set, run_of_valid valid _, ?_⟩
  intro unit present
  rw [ofSet_unit] at present
  obtain ⟨made, free⟩ := written_some present
  constructor
  · obtain ⟨grown, grownMade, growth⟩ := standalone_appended made
    refine ⟨grown, ?_, growth⟩
    rw [ofSet_unit, written_appended made, free, grownMade]
    rfl
  · intro path other
    rw [ofSet_unit, ofSet_unit, written_appended made, written?]
    simp only [standalone?, outcome_congr (membersOf_appended_other other)]

/-- The getter of a property, appended to a set whose unit for the type has two members. -/
theorem appended_unit_grows_camera :
    let decl := Declaration.getter Samples.camera "Visible" .bool
    Config.isValid {} = true ∧ ∃ generation extended unit grown,
      Generation.run {} Samples.mixedLegality = .ok generation ∧
      Generation.run {} (appended Samples.mixedLegality decl) = .ok extended ∧
      generation.unit? decl.container.path = some unit ∧
      extended.unit? decl.container.path = some grown ∧
      Grown {} Samples.mixedLegality decl unit grown ∧ grown.members.length = 3 := by
  intro decl
  have valid : Config.isValid {} = true := by decide +kernel
  have present : ((Generation.ofSet {} Samples.mixedLegality).unit? decl.container.path).isSome =
      true := by decide +kernel
  have three : ((Generation.ofSet {} (appended Samples.mixedLegality decl)).unit?
      decl.container.path).map (·.members.length) = some 3 := by decide +kernel
  obtain ⟨generation, extended, ran, extendedRan, grows⟩ :=
    appended_unit_grows Samples.mixedLegality decl valid
  obtain rfl := Except.ok.inj ((run_of_valid valid _).symm.trans ran)
  obtain rfl := Except.ok.inj ((run_of_valid valid _).symm.trans extendedRan)
  obtain ⟨unit, found⟩ := Option.isSome_iff_exists.mp present
  obtain ⟨⟨grown, regrown, growth⟩, _⟩ := grows unit found
  rw [regrown] at three
  exact ⟨valid, _, _, unit, grown, ran, extendedRan, found, regrown, growth, Option.some.inj three⟩

end NativeThunks.Appending
