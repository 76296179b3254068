import NativeThunks.Proofs.ContainerOutcomes
import NativeThunks.Proofs.SelectionRuns
import NativeThunks.Samples

/-! The levels of diagnostics. A diagnostic disqualifies a whole type when it names the type's path
and no member, and the path has no unit; a kind of type level is meant to say just that. It does,
with one exception: that the name of a type is no identifier is reported under the kind for names,
which is of member level, because members have names as well. -/
namespace NativeThunks.DiagnosticLevels
open PlanStages SelectionRuns PathOrder ContainerOutcomes

variable {config : Config} {set : DeclarationSet}

/-- A diagnostic disqualifies a type when it names the type but no member, and the type has no unit. -/
def Disqualifies (generation : Generation) (diagnostic : Diagnostic) : Prop :=
  diagnostic.location.member = none ∧
    ∃ path, diagnostic.location.container = some path ∧ generation.unit? path = none

/-- The level of a diagnostic is truthful when it says whether a type was disqualified. -/
def Truthful (generation : Generation) (diagnostic : Diagnostic) : Prop :=
  diagnostic.kind.isTypeLevel = true ↔ Disqualifies generation diagnostic

/-- A diagnostic about the name of a type. -/
def AboutTypeName (diagnostic : Diagnostic) : Prop :=
  ∃ container, diagnostic = .invalidTypeName container

/-- A container that could have members but for its name. -/
structure Misnamed (container : Container) : Prop where
  topLevel : container.nested = false
  concrete : container.generic = false
  generated : container.generated = true
  name : Grammar.isIdentifier container.name = false

private theorem fault_of_misnamed {container : Container} (misnamed : Misnamed container) :
    container.fault? = some (.invalidTypeName container) := by
  simp [Container.fault?, misnamed.topLevel, misnamed.concrete, misnamed.generated, misnamed.name]

/-- A container is refused with a kind of type level, unless it is refused for its name. -/
theorem fault_level {container : Container} {fault : Diagnostic}
    (found : container.fault? = some fault) :
    fault.kind.isTypeLevel = true ∨ Misnamed container ∧ fault = .invalidTypeName container := by
  unfold Container.fault? at found
  by_cases nested : container.nested = true
  · rw [if_pos nested] at found
    cases found
    exact .inl rfl
  rw [if_neg nested] at found
  by_cases generic : container.generic = true
  · rw [if_pos generic] at found
    cases found
    exact .inl rfl
  rw [if_neg generic] at found
  by_cases generated : container.generated = true
  · cases name : Grammar.isIdentifier container.name with
    | true => simp [generated, name] at found
    | false =>
      have same : fault = .invalidTypeName container := by
        simpa [generated, name, eq_comm] using found
      exact .inr ⟨⟨by simpa using nested, by simpa using generic, generated, name⟩, same⟩
  · have same : fault = .typeMustBeGenerated container := by
      simpa [generated, eq_comm] using found
    subst same
    exact .inl rfl

/-- The three origins of a diagnostic: a type that is left out, be it refused or without its file;
a type that is refused for its name; and a member that is skipped. -/
inductive Origin (config : Config) (set : DeclarationSet) : Diagnostic → Prop where
  | type (container : Container) (diagnostic : Diagnostic)
      (level : diagnostic.kind.isTypeLevel = true)
      (place : diagnostic.location = .ofContainer container)
      (unitless : (Generation.ofSet config set).unit? container.path = none) :
      Origin config set diagnostic
  | name (path : String) (first : Declaration) (head : (set.membersOf path).head? = some first)
      (misnamed : Misnamed first.container)
      (unitless : (Generation.ofSet config set).unit? first.container.path = none) :
      Origin config set (.invalidTypeName first.container)
  | member (decl : Declaration) (diagnostic : Diagnostic) (fault : MemberFault decl diagnostic) :
      Origin config set diagnostic

private theorem findings_origin {path : String} {diagnostic : Diagnostic} (taken : path ∈ set.paths)
    (listed : diagnostic ∈ findings config set path) : Origin config set diagnostic := by
  obtain ⟨first, head⟩ := exists_first taken
  rcases outcome_cases config head with
    ⟨fault, refused, absent, found⟩ | ⟨accepted, selected, reported⟩
  · rw [found] at listed
    obtain rfl := List.mem_singleton.mp listed
    have unitless : (Generation.ofSet config set).unit? first.container.path = none := by
      rw [(first_mem head).2, ofSet_unit, written?, absent, ite_self]
    rcases fault_level refused with level | ⟨misnamed, rfl⟩
    · exact .type first.container diagnostic level (fault_location refused) unitless
    · exact .name path first head misnamed unitless
  · rw [reported] at listed
    obtain ⟨decl, _, fault⟩ := diagnostics_of_members config _ diagnostic listed
    exact .member decl diagnostic fault

private theorem dropReport_origin {path : String} {diagnostic : Diagnostic}
    (listed : diagnostic ∈ dropReport config set set.paths path) :
    Origin config set diagnostic := by
  cases made : standalone? config set path with
  | none => simp [dropReport, made] at listed
  | some unit =>
    cases outdone : owner? config set set.paths path with
    | none => simp [dropReport, outdone] at listed
    | some owner =>
      obtain ⟨first, origin⟩ := standalone_some made
      rw [dropReport_of_owner made outdone origin.head] at listed
      obtain rfl := List.mem_singleton.mp listed
      refine .type first.container _ rfl rfl ?_
      rw [(first_mem origin.head).2, ofSet_unit, written?, outdone]
      rfl

private theorem diagnostic_origin {diagnostic : Diagnostic}
    (listed : diagnostic ∈ (Generation.ofSet config set).diagnostics.entries) :
    Origin config set diagnostic := by
  rw [ofSet_diagnostics] at listed
  obtain ⟨path, taken, here⟩ := List.mem_flatMap.mp listed
  rcases List.mem_append.mp here with alone | dropped
  · exact findings_origin taken alone
  · exact dropReport_origin dropped

private theorem not_typeName_of_level {diagnostic : Diagnostic}
    (level : diagnostic.kind.isTypeLevel = true) : ¬AboutTypeName diagnostic := by
  rintro ⟨container, rfl⟩
  cases level

private theorem not_typeName_of_member {decl : Declaration} {diagnostic : Diagnostic}
    (about : AboutMember decl diagnostic) : ¬AboutTypeName diagnostic := by
  rintro ⟨container, rfl⟩
  cases congrArg DiagnosticLocation.member about

/-- A diagnostic at a container disqualifies its type if there is no unit for it. -/
theorem disqualifies_of_container {generation : Generation} {diagnostic : Diagnostic}
    {container : Container} (place : diagnostic.location = .ofContainer container)
    (unitless : generation.unit? container.path = none) : Disqualifies generation diagnostic := by
  rw [Disqualifies, place]
  exact ⟨rfl, container.path, rfl, unitless⟩

/-- Every diagnostic of a generation has a truthful level but those about the name of a type. -/
theorem truthful_iff {diagnostic : Diagnostic} (origin : Origin config set diagnostic) :
    Truthful (Generation.ofSet config set) diagnostic ↔ ¬AboutTypeName diagnostic := by
  cases origin with
  | type container _ level place unitless =>
    have disqualifies := disqualifies_of_container place unitless
    have other := not_typeName_of_level level
    exact iff_of_true (iff_of_true level disqualifies) other
  | name path first head misnamed unitless =>
    have disqualifies : Disqualifies (Generation.ofSet config set)
        (.invalidTypeName first.container) := disqualifies_of_container rfl unitless
    refine iff_of_false (fun truthful => ?_) (not_not_intro ⟨first.container, rfl⟩)
    cases truthful.mpr disqualifies
  | member decl _ fault =>
    have spares : ¬Disqualifies (Generation.ofSet config set) diagnostic := by
      rintro ⟨unnamed, _⟩
      rw [fault.about] at unnamed
      cases unnamed
    have low : ¬diagnostic.kind.isTypeLevel = true := by simp [fault.level]
    exact iff_of_true (iff_of_false low spares) (not_typeName_of_member fault.about)

/-- The name of a type is reported exactly when it is all that is wrong with the container of a
path, for which the first declaration of the path speaks. -/
theorem typeName_reported_iff (config : Config) (set : DeclarationSet) :
    (∃ diagnostic ∈ (Generation.ofSet config set).diagnostics.entries,
        AboutTypeName diagnostic) ↔
      ∃ path, ∃ first ∈ (set.membersOf path).head?, Misnamed first.container := by
  constructor
  · rintro ⟨diagnostic, listed, about⟩
    cases diagnostic_origin listed with
    | type container _ level place unitless => exact absurd about (not_typeName_of_level level)
    | name path first head misnamed unitless => exact ⟨path, first, head, misnamed⟩
    | member decl _ fault => exact absurd about (not_typeName_of_member fault.about)
  · rintro ⟨path, first, head, misnamed⟩
    have fault := fault_of_misnamed misnamed
    obtain ⟨occurs, named⟩ := first_mem head
    refine ⟨.invalidTypeName first.container, ?_, first.container, rfl⟩
    rw [ofSet_diagnostics]
    refine List.mem_flatMap.mpr ⟨path, (mem_paths set path).mpr ⟨first, occurs, named⟩, ?_⟩
    rcases outcome_cases config head with ⟨found, refused, _, findings⟩ | ⟨accepted, _⟩
    · obtain rfl := Option.some.inj (refused.symm.trans fault)
      simp [findings]
    · rw [accepted] at fault
      cases fault

/-- With a usable configuration every set is generated. A diagnostic has a truthful level exactly
when it is not about the name of a type, so all of them have exactly when no path is refused for the
name of its container. -/
theorem levels_truthful_iff (set : DeclarationSet) (valid : config.isValid = true) :
    ∃ generation, Generation.run config set = .ok generation ∧
      (∀ diagnostic ∈ generation.diagnostics.entries,
        Truthful generation diagnostic ↔ ¬AboutTypeName diagnostic) ∧
      ((∀ diagnostic ∈ generation.diagnostics.entries, Truthful generation diagnostic) ↔
        ∀ path, ∀ first ∈ (set.membersOf path).head?, ¬Misnamed first.container) := by
  refine ⟨_, run_of_valid valid set, fun diagnostic listed => ?_, ?_⟩
  · exact truthful_iff (diagnostic_origin listed)
  · have reported := not_congr (typeName_reported_iff config set)
    push Not at reported
    rw [← reported]
    exact forall₂_congr fun diagnostic listed => truthful_iff (diagnostic_origin listed)

theorem levels_truthful_invalidTypes : Config.isValid {} = true ∧
    ∃ generation, Generation.run {} Samples.invalidTypes = .ok generation ∧
      generation.diagnostics.count = 3 ∧
      ∀ diagnostic ∈ generation.diagnostics.entries, Truthful generation diagnostic := by
  have valid : Config.isValid {} = true := by decide +kernel
  have three : (Generation.ofSet {} Samples.invalidTypes).diagnostics.count = 3 := by
    decide +kernel
  have named : ∀ decl ∈ Samples.invalidTypes.declarations,
      Grammar.isIdentifier decl.container.name = true := by decide +kernel
  obtain ⟨generation, ran, _, truthful⟩ := levels_truthful_iff Samples.invalidTypes valid
  obtain rfl := Except.ok.inj ((run_of_valid valid _).symm.trans ran)
  refine ⟨valid, _, ran, three, truthful.mpr fun path first head misnamed => ?_⟩
  have usable := named first (first_mem head).1
  rw [misnamed.name] at usable
  cases usable

/-- A type whose name begins with a digit gets no unit. The diagnostic that says so names no member,
and still its kind is of member level. -/
theorem misnamed_type_of_member_level :
    let sprite : Container := { path := "engine::2DSprite", name := "2DSprite" }
    let set : DeclarationSet := { declarations := [.method sprite "Draw"] }
    Config.isValid {} = true ∧ ∃ generation, Generation.run {} set = .ok generation ∧
      ∃ diagnostic ∈ generation.diagnostics.entries, diagnostic.kind.isTypeLevel = false ∧
        Disqualifies generation diagnostic ∧ ¬Truthful generation diagnostic := by
  intro sprite set
  have valid : Config.isValid {} = true := by decide +kernel
  have misnamed : Misnamed sprite := ⟨rfl, rfl, rfl, by decide +kernel⟩
  have speaks : ∃ path, ∃ first ∈ (set.membersOf path).head?, Misnamed first.container :=
    ⟨sprite.path, .method sprite "Draw", by simp [set, DeclarationSet.membersOf, Declaration.method,
      Declaration.member], misnamed⟩
  obtain ⟨_, listed, container, rfl⟩ := (typeName_reported_iff {} set).mpr speaks
  have untruthful := (truthful_iff (diagnostic_origin listed)).not.mpr
    (not_not_intro ⟨container, rfl⟩)
  refine ⟨valid, _, run_of_valid valid set, _, listed, rfl, ?_, untruthful⟩
  by_contra spares
  exact untruthful (iff_of_false Bool.false_ne_true spares)

end NativeThunks.DiagnosticLevels
