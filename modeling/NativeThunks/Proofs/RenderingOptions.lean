import NativeThunks.Proofs.FileClaims
import NativeThunks.Proofs.PlanStages
import NativeThunks.Proofs.WrapperTables
import NativeThunks.Samples

/-! What the configuration can do to a generation. The name of the receiver is the only setting that
the judgement of members looks at, and it looks at it only for members that take a receiver without
naming it. Configurations that give every member of a set the same receiver therefore leave out the
same declarations for the same reasons; all other settings show in the text of the units and, as far
as scalars are wrapped, in their wrappers. -/
namespace NativeThunks.RenderingOptions
open PlanStages ContainerOutcomes FileClaims WrapperTables

variable {first second : Config} {set : DeclarationSet}

/-- Two configurations give every member of a set the same receiver. -/
def SameReceivers (first second : Config) (set : DeclarationSet) : Prop :=
  ∀ decl ∈ set.declarations,
    decl.receiverName second.receiverName = decl.receiverName first.receiverName

private theorem ofDeclaration_congr {decl : Declaration}
    (same : decl.receiverName second.receiverName = decl.receiverName first.receiverName) :
    MemberPlan.ofDeclaration decl second = .ofDeclaration decl first := by
  simp only [MemberPlan.ofDeclaration, MemberSymbols.ofDeclaration, same]

/-- A member is judged alike, and planned alike, with the same receiver. -/
theorem plan_congr {decl : Declaration}
    (same : decl.receiverName second.receiverName = decl.receiverName first.receiverName) :
    decl.plan second = decl.plan first := by
  simp only [Declaration.plan, ofDeclaration_congr same]

private theorem ofMembers_congr (members : List Declaration)
    (same : ∀ decl ∈ members,
      decl.receiverName second.receiverName = decl.receiverName first.receiverName) :
    Selection.ofMembers second members = Selection.ofMembers first members := by
  apply List.foldl_ext _ _ _
  intro selection decl member
  simp only [Selection.add, plan_congr (same decl member)]

/-- What a path selects does not depend on the configuration but for the receivers. -/
theorem selection_congr (same : SameReceivers first second set) (path : String) :
    Selection.ofMembers second (set.membersOf path) =
      Selection.ofMembers first (set.membersOf path) :=
  ofMembers_congr _ fun decl member => same decl (List.mem_of_mem_filter member)

/-- Two units that were made of the same plans for the same container, one in each configuration. -/
inductive Counterparts (first second : Config) (set : DeclarationSet) :
    GeneratedUnit → GeneratedUnit → Prop where
  | made (path : String) (speaker : Declaration) (left right : GeneratedUnit)
      (head : (set.membersOf path).head? = some speaker)
      (leftMade : unitOfPlans? first speaker.container
        (Selection.ofMembers first (set.membersOf path)).plans = some left)
      (rightMade : unitOfPlans? second speaker.container
        (Selection.ofMembers first (set.membersOf path)).plans = some right) :
      Counterparts first second set left right

/-- The same plans make counterparts or no unit in either configuration. -/
theorem units_related (second : Config) {path : String} {speaker : Declaration}
    (head : (set.membersOf path).head? = some speaker) :
    Option.Rel (Counterparts first second set)
      (unitOfPlans? first speaker.container
        (Selection.ofMembers first (set.membersOf path)).plans)
      (unitOfPlans? second speaker.container
        (Selection.ofMembers first (set.membersOf path)).plans) := by
  have alike := (unitOfPlans_isSome second speaker.container
    (Selection.ofMembers first (set.membersOf path)).plans).trans
      (unitOfPlans_isSome first speaker.container _).symm
  cases left : unitOfPlans? first speaker.container
      (Selection.ofMembers first (set.membersOf path)).plans with
  | none =>
    rw [left, Option.isSome_none, Option.isSome_eq_false_iff, Option.isNone_iff_eq_none] at alike
    rw [alike]
    exact .none
  | some leftUnit =>
    rw [left, Option.isSome_some, Option.isSome_iff_exists] at alike
    obtain ⟨rightUnit, right⟩ := alike
    rw [right]
    exact .some (.made path speaker leftUnit rightUnit head left right)

/-- Alone, a path comes to counterparts or to no unit, and to the same diagnostics. -/
theorem outcome_related (same : SameReceivers first second set) (path : String) :
    Option.Rel (Counterparts first second set) (standalone? first set path)
        (standalone? second set path) ∧
      findings second set path = findings first set path := by
  cases members : set.membersOf path with
  | nil => simp [standalone?, findings, outcome, members]
  | cons speaker rest =>
    have head : (set.membersOf path).head? = some speaker := by rw [members, List.head?_cons]
    rcases outcome_cases first head with
      ⟨fault, refused, leftAbsent, leftFound⟩ | ⟨accepted, leftMade, leftFound⟩
    · rcases outcome_cases second head with
        ⟨other, otherRefused, rightAbsent, rightFound⟩ | ⟨accepted, _⟩
      · obtain rfl := Option.some.inj (refused.symm.trans otherRefused)
        rw [leftAbsent, rightAbsent, leftFound, rightFound]
        exact ⟨.none, rfl⟩
      · rw [accepted] at refused
        cases refused
    · rcases outcome_cases second head with ⟨fault, refused, _⟩ | ⟨_, rightMade, rightFound⟩
      · rw [accepted] at refused
        cases refused
      · rw [selection_congr same] at rightMade rightFound
        rw [leftFound, rightFound, leftMade, rightMade]
        exact ⟨units_related second head, rfl⟩

theorem Counterparts.fileName {left right : GeneratedUnit}
    (both : Counterparts first second set left right) : right.fileName = left.fileName := by
  obtain ⟨_, _, _, _, _, leftMade, rightMade⟩ := both
  rw [(unitOfPlans_some leftMade).fileName, (unitOfPlans_some rightMade).fileName]

/-- With the same receivers, two configurations generate counterparts and report the same. -/
theorem ofSet_counterparts (same : SameReceivers first second set) :
    List.Forall₂ (Counterparts first second set) (Generation.ofSet first set).units
        (Generation.ofSet second set).units ∧
      (Generation.ofSet second set).diagnostics = (Generation.ofSet first set).diagnostics :=
  ofSet_related (fun path => (outcome_related same path).1) (fun _ _ => Counterparts.fileName)
    fun path => (outcome_related same path).2

/-- Units that agree in everything but their text, and in their wrappers if scalars are treated
alike. -/
structure SameMembers (first second : Config) (left right : GeneratedUnit) : Prop where
  path : left.path = right.path
  name : left.name = right.name
  nativeType : left.nativeType = right.nativeType
  fileName : left.fileName = right.fileName
  members : left.members = right.members
  wrappers : first.wrapScalars = second.wrapScalars → left.wrappers = right.wrappers

theorem Counterparts.sameMembers {left right : GeneratedUnit}
    (both : Counterparts first second set left right) : SameMembers first second left right := by
  obtain ⟨_, speaker, _, _, _, leftMade, rightMade⟩ := both
  have leftUnit := unitOfPlans_some leftMade
  have rightUnit := unitOfPlans_some rightMade
  constructor
  case path => rw [leftUnit.path, rightUnit.path]
  case name => rw [leftUnit.name, rightUnit.name]
  case nativeType => rw [leftUnit.nativeType, rightUnit.nativeType]
  case fileName => rw [leftUnit.fileName, rightUnit.fileName]
  case members => rw [leftUnit.members, rightUnit.members]
  case wrappers =>
    intro wraps
    rw [(unitOfPlans_thunks leftMade).1, (unitOfPlans_thunks rightMade).1, ofPlans_wrappers,
      ofPlans_wrappers, wraps]

/-- A unit does not depend on the receiver's name but for its plans. -/
theorem unitOfPlans_receiver (config : Config) (name : String) (container : Container)
    (plans : List MemberPlan) :
    unitOfPlans? { config with receiverName := name } container plans =
      unitOfPlans? config container plans := by
  have thunks : ThunkList.ofPlans { config with receiverName := name } plans =
      ThunkList.ofPlans config plans := by
    apply ofPlans_congr <;> rfl
  rw [unitOfPlans?, unitOfPlans?, thunks]
  rfl

/-- A member that is static or names its receiver leaves no choice to the configuration. -/
theorem receiverName_fixed {decl : Declaration}
    (fixed : decl.isStatic = true ∨ decl.thisName.isSome = true) (fallback other : String) :
    decl.receiverName fallback = decl.receiverName other := by
  unfold Declaration.receiverName
  rcases fixed with static | named
  · rw [if_pos static, if_pos static]
  · obtain ⟨name, given⟩ := Option.isSome_iff_exists.mp named
    rw [given]
    rfl

/-- Of two usable configurations with the same receiver both generate every set, with the same
diagnostics and with units of the same members, and of the same wrappers if both treat scalars alike.
If two usable configurations differ in the receiver alone, both generate every set in which no member
leaves its receiver open, and all of it is the same. -/
theorem rendering_keeps_legality (set : DeclarationSet) (firstValid : first.isValid = true)
    (secondValid : second.isValid = true) :
    (first.receiverName = second.receiverName →
      ∃ left right, Generation.run first set = .ok left ∧ Generation.run second set = .ok right ∧
        left.diagnostics = right.diagnostics ∧
        List.Forall₂ (SameMembers first second) left.units right.units) ∧
    (second = { first with receiverName := second.receiverName } →
      (∀ decl ∈ set.declarations, decl.isStatic = true ∨ decl.thisName.isSome = true) →
      ∃ generation, Generation.run first set = .ok generation ∧
        Generation.run second set = .ok generation) := by
  constructor
  · intro receiver
    have same : SameReceivers first second set := fun decl _ => by rw [receiver]
    obtain ⟨units, diagnostics⟩ := ofSet_counterparts same
    exact ⟨_, _, run_of_valid firstValid set, run_of_valid secondValid set, diagnostics.symm,
      units.imp fun _ _ => Counterparts.sameMembers⟩
  · intro rest fixed
    have same : SameReceivers first second set :=
      fun decl member => receiverName_fixed (fixed decl member) _ _
    obtain ⟨units, diagnostics⟩ := ofSet_counterparts same
    have equal : (Generation.ofSet first set).units = (Generation.ofSet second set).units := by
      apply List.forall₂_eq_eq_eq ▸ units.imp
      intro left right both
      obtain ⟨path, speaker, _, _, _, leftMade, rightMade⟩ := both
      rw [rest, unitOfPlans_receiver, leftMade] at rightMade
      exact Option.some.inj rightMade
    have whole : Generation.ofSet second set = Generation.ofSet first set :=
      congrArg₂ Generation.mk equal.symm diagnostics
    exact ⟨_, run_of_valid firstValid set, whole ▸ run_of_valid secondValid set⟩

/-- Two legal members, neither of which leaves its receiver open. -/
def fixedReceivers : DeclarationSet where
  declarations := [
    { Declaration.method Samples.texture "Width" with isStatic := true, ret := .primitive .u32 },
    { Declaration.method Samples.texture "Bind" with thisName := some "texture" }]

theorem rendering_keeps_legality_samples :
    let plain : Config := { runtimePath := "crate::rt", convention := .system, wrapScalars := false,
                            emitHeader := false }
    let renamed : Config := { receiverName := "__self" }
    Config.isValid {} = true ∧ plain.isValid = true ∧ renamed.isValid = true ∧
      (∃ left right, Generation.run {} Samples.mixedLegality = .ok left ∧
        Generation.run plain Samples.mixedLegality = .ok right ∧
        left.diagnostics = right.diagnostics ∧
        List.Forall₂ (SameMembers {} plain) left.units right.units) ∧
      ∃ generation, Generation.run {} fixedReceivers = .ok generation ∧
        Generation.run renamed fixedReceivers = .ok generation := by
  intro plain renamed
  have valid : Config.isValid {} = true := by decide +kernel
  have plainValid : plain.isValid = true := by decide +kernel
  have renamedValid : renamed.isValid = true := by decide +kernel
  have fixed : ∀ decl ∈ fixedReceivers.declarations,
      decl.isStatic = true ∨ decl.thisName.isSome = true := by decide
  exact ⟨valid, plainValid, renamedValid,
    (rendering_keeps_legality Samples.mixedLegality valid plainValid).1 rfl,
    (rendering_keeps_legality fixedReceivers valid renamedValid).2 rfl fixed⟩

end NativeThunks.RenderingOptions
