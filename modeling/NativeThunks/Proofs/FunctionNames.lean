import NativeThunks.Proofs.Identifiers
import NativeThunks.Proofs.UnitForm

/-! Which functions of a unit have one name. Selection keeps the names of the functions of a container
apart as texts. A native name that is a bare word gives a function name in canonical spelling, whatever
its case and whether it is reserved, so two such members never define the same function. A name that
comes with a raw mark, blanks or a comment keeps them, and may define what another member defines. -/
namespace NativeThunks.FunctionNames
open ContainerOutcomes Identifiers Naming PlanStages ReceiverBinding SelectionRuns UnitForm

variable {config : Config} {set : DeclarationSet} {decl : Declaration} {unit : GeneratedUnit}

/-- No member whose name is other than a bare word defines what a further member defines. -/
def MembersApart (members : List EmittedMember) : Prop :=
  ∀ first ∈ members, ¬Bare first.name → ∀ second ∈ members,
    second.functionName ≠ first.functionName →
      identifierOf? first.functionName ≠ identifierOf? second.functionName

/-- The names of a unit's functions. -/
def functionNames (unit : GeneratedUnit) : List String := unit.members.map (·.functionName)

/-- No word that is escaped begins like the function of a setter. -/
private theorem setter_unescaped (text : String) :
    escapeReserved ("set_" ++ text) = "set_" ++ text := by
  have other : ∀ word ∈ pathWords ++ reservedWords, ¬"set_".toList <+: word.toList := by
    decide +kernel
  have kept : "set_" ++ text ∉ pathWords ++ reservedWords := by
    intro member
    exact other _ member ⟨text.toList, (String.toList_append).symm⟩
  simp only [List.mem_append, not_or] at kept
  simp [escapeReserved, kept]

/-- A bare name gives a function name in canonical spelling. -/
theorem canonical_functionName (bare : Bare decl.name) : Canonical decl.functionName := by
  have snake : Bare (snakeCase decl.name) := (bare_snakeCase decl.name).mpr bare
  unfold Declaration.functionName
  split
  · have prefixed : Bare ("set_" ++ snakeCase decl.name) :=
      (bare_append _ _).mpr ⟨by decide, snake⟩
    exact setter_unescaped _ ▸ canonical_escapeReserved prefixed
  · exact canonical_escapeReserved snake

/-- What a member of a unit was emitted for: a legal declaration with its name and its function. -/
private theorem member_origin (member : unit ∈ (Generation.ofSet config set).units)
    {emitted : EmittedMember} (listed : emitted ∈ unit.members) :
    ∃ decl, Passed config decl ∧ emitted = memberOf decl := by
  obtain ⟨made, _⟩ := written_some (mem_ofSet_units.mp member)
  obtain ⟨_, origin⟩ := standalone_some made
  have sound := ofMembers_sound config (set.membersOf unit.path)
  rw [origin.unitOf.members, sound_members sound] at listed
  obtain ⟨decl, planned, rfl⟩ := List.mem_map.mp listed
  obtain ⟨plan, kept, rfl⟩ := List.mem_map.mp planned
  exact ⟨plan.decl, (sound.legal plan kept).1, rfl⟩

/-- The name of a function in a unit is accepted, and canonical for a member with a bare name. -/
private theorem function_of_member (member : unit ∈ (Generation.ofSet config set).units)
    {emitted : EmittedMember} (listed : emitted ∈ unit.members) :
    Grammar.isIdentifier emitted.functionName = true ∧
      (Bare emitted.name → Canonical emitted.functionName) := by
  obtain ⟨decl, passed, rfl⟩ := member_origin member listed
  exact ⟨(names_accepted passed.names).functionName, canonical_functionName⟩

/-- Every set with a usable configuration is generated into units whose functions have names that are
distinct as texts and each stand for an identifier. They are distinct as identifiers exactly when no
member with another name than a bare word defines what a further member defines, so wherever all names
are bare words. -/
theorem function_names_distinct_iff (set : DeclarationSet) (valid : config.isValid = true) :
    ∃ generation, Generation.run config set = .ok generation ∧ ∀ unit ∈ generation.units,
      (functionNames unit).Nodup ∧
      (∀ name ∈ functionNames unit, (identifierOf? name).isSome = true) ∧
      (Distinct (functionNames unit) ↔ MembersApart unit.members) ∧
      ((∀ member ∈ unit.members, Bare member.name) → Distinct (functionNames unit)) := by
  obtain ⟨generation, ran, form⟩ := units_well_formed set valid
  obtain rfl : Generation.ofSet config set = generation :=
    Except.ok.inj ((run_of_valid valid set).symm.trans ran)
  refine ⟨_, ran, ?_⟩
  intro unit member
  have texts : (functionNames unit).Nodup := form.functionNames unit member
  have accepted : ∀ name ∈ functionNames unit, Grammar.isIdentifier name = true := by
    intro name occurs
    obtain ⟨emitted, listed, rfl⟩ := List.mem_map.mp occurs
    exact (function_of_member member listed).1
  have apart_iff : Distinct (functionNames unit) ↔ MembersApart unit.members := by
    constructor
    · intro distinct first firstListed _ second secondListed different same
      exact different (List.inj_on_of_nodup_map distinct (List.mem_map_of_mem secondListed)
        (List.mem_map_of_mem firstListed) same.symm)
    · intro apart
      rw [distinct_iff texts accepted]
      intro first firstListed stray second secondListed different
      obtain ⟨one, oneListed, rfl⟩ := List.mem_map.mp firstListed
      obtain ⟨other, otherListed, rfl⟩ := List.mem_map.mp secondListed
      exact apart one oneListed (mt (function_of_member member oneListed).2 stray) other
        otherListed different
  refine ⟨texts, fun name listed => ?_, apart_iff, fun bare => apart_iff.mpr ?_⟩
  · obtain ⟨identifier, named⟩ := identifierOf_of_isIdentifier (accepted name listed)
    exact named ▸ rfl
  · intro first listed stray
    exact absurd (bare first listed) stray

/-- A method and the accessors of one native name, which is reserved as it becomes in snake case. -/
theorem function_names_distinct_type :
    let set : DeclarationSet := { declarations := [.setter Samples.camera "Type" .bool,
      { Declaration.method Samples.camera "Type" with nativeName := some "TypeOf" }] }
    Config.isValid {} = true ∧ ∃ generation, Generation.run {} set = .ok generation ∧
      generation.units.map functionNames = [["set_type", "r#type"]] ∧
      ∀ unit ∈ generation.units, Distinct (functionNames unit) := by
  intro set
  have valid : Config.isValid {} = true := by decide +kernel
  obtain ⟨generation, ran, units⟩ := function_names_distinct_iff set valid
  obtain rfl : Generation.ofSet {} set = generation :=
    Except.ok.inj ((run_of_valid valid set).symm.trans ran)
  have emitted : (Generation.ofSet {} set).units.map functionNames = [["set_type", "r#type"]] ∧
      ∀ unit ∈ (Generation.ofSet {} set).units, ∀ member ∈ unit.members, Bare member.name := by
    decide +kernel
  refine ⟨valid, _, ran, emitted.1, ?_⟩
  intro unit member
  exact (units unit member).2.2.2 (emitted.2 unit member)

/-- A method whose name comes with a raw mark defines the function of another method again. -/
theorem function_repeated_raw :
    let set : DeclarationSet := { declarations := [.method Samples.camera "Render",
      { Declaration.method Samples.camera "r#render" with nativeName := some "RenderAgain" }] }
    Config.isValid {} = true ∧ ∃ generation, Generation.run {} set = .ok generation ∧
      generation.units.map functionNames = [["render", "r#render"]] ∧
      ∃ unit ∈ generation.units, ¬Distinct (functionNames unit) := by
  intro set
  have valid : Config.isValid {} = true := by decide +kernel
  refine ⟨valid, _, run_of_valid valid set, ?_⟩
  decide +kernel

end NativeThunks.FunctionNames
