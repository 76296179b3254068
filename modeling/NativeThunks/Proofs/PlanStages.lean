import NativeThunks.Legality

/-! The stages that a member goes through before it is planned. A plan is always the one computed
from the declaration alone, a refusal is the whole fault list of one stage, and every fault of every
stage points at the member it is about, never at the whole type. -/
namespace NativeThunks.PlanStages

variable {config : Config} {decl : Declaration}

/-- A diagnostic about a member names its container and the member itself. -/
def AboutMember (decl : Declaration) (diagnostic : Diagnostic) : Prop :=
  diagnostic.location = .ofMember decl

/-- A fault of a member is about that member, and its kind disqualifies no more than the member. -/
structure MemberFault (decl : Declaration) (diagnostic : Diagnostic) : Prop where
  about : AboutMember decl diagnostic
  level : diagnostic.kind.isTypeLevel = false

/-- The stage that refuses a member: the earlier ones found nothing, and all of its faults are
reported together. -/
inductive Refused (config : Config) (decl : Declaration) : List Diagnostic → Prop where
  | attributes (found : decl.attributeFaults ≠ []) : Refused config decl decl.attributeFaults
  | signature (attributes : decl.attributeFaults = []) (found : decl.signatureFaults ≠ []) :
      Refused config decl decl.signatureFaults
  | names (attributes : decl.attributeFaults = []) (signature : decl.signatureFaults = [])
      (found : decl.nameFaults (.ofDeclaration decl config) ≠ []) :
      Refused config decl (decl.nameFaults (.ofDeclaration decl config))
  | crossings (attributes : decl.attributeFaults = []) (signature : decl.signatureFaults = [])
      (names : decl.nameFaults (.ofDeclaration decl config) = [])
      (found : decl.crossingFaults ≠ []) : Refused config decl decl.crossingFaults

/-- Every stage is silent about the member. -/
structure Passed (config : Config) (decl : Declaration) : Prop where
  attributes : decl.attributeFaults = []
  signature : decl.signatureFaults = []
  names : decl.nameFaults (.ofDeclaration decl config) = []
  crossings : decl.crossingFaults = []

/-- Judging a member either passes every stage and answers the computed plan, or stops at the first
stage that objects. -/
theorem plan_cases (config : Config) (decl : Declaration) :
    (Passed config decl ∧ decl.plan config = .ok (.ofDeclaration decl config)) ∨
      ∃ faults, Refused config decl faults ∧ decl.plan config = .error faults := by
  unfold Declaration.plan
  by_cases attributes : decl.attributeFaults = []
  · by_cases signature : decl.signatureFaults = []
    · by_cases names : decl.nameFaults (.ofDeclaration decl config) = []
      · by_cases crossings : decl.crossingFaults = []
        · exact .inl ⟨⟨attributes, signature, names, crossings⟩, by
            simp [attributes, signature, names, crossings]⟩
        · exact .inr ⟨_, .crossings attributes signature names crossings, by
            simp [attributes, signature, names, crossings]⟩
      · exact .inr ⟨_, .names attributes signature names, by simp [attributes, signature, names]⟩
    · exact .inr ⟨_, .signature attributes signature, by simp [attributes, signature]⟩
  · exact .inr ⟨_, .attributes attributes, by simp [attributes]⟩

/-- A plan is computed from the declaration, whatever was judged before it. -/
theorem plan_ok {plan : MemberPlan} (planned : decl.plan config = .ok plan) :
    Passed config decl ∧ plan = .ofDeclaration decl config := by
  rcases plan_cases config decl with ⟨passed, ran⟩ | ⟨faults, refused, ran⟩
  · rw [ran] at planned
    cases planned
    exact ⟨passed, rfl⟩
  · rw [ran] at planned
    cases planned

theorem plan_error {faults : List Diagnostic} (failed : decl.plan config = .error faults) :
    Refused config decl faults := by
  rcases plan_cases config decl with ⟨passed, ran⟩ | ⟨found, refused, ran⟩
  · rw [ran] at failed
    cases failed
  · rw [ran] at failed
    cases failed
    exact refused

/-- What passes every stage is not refused by any. -/
theorem Passed.not_refused (passed : Passed config decl) {faults : List Diagnostic} :
    ¬Refused config decl faults := by
  intro refused
  cases refused with
  | attributes found => exact found passed.attributes
  | signature attributes found => exact found passed.signature
  | names attributes signature found => exact found passed.names
  | crossings attributes signature names found => exact found passed.crossings

/-- A refusal is never silent. -/
theorem refused_ne_nil {faults : List Diagnostic} (refused : Refused config decl faults) :
    faults ≠ [] := by
  cases refused with
  | attributes found => exact found
  | signature attributes found => exact found
  | names attributes signature found => exact found
  | crossings attributes signature names found => exact found

private theorem attribute_faults_of_member :
    ∀ fault ∈ decl.attributeFaults, MemberFault decl fault := by
  intro fault member
  unfold Declaration.attributeFaults at member
  split at member
  · cases List.mem_singleton.mp member
    exact ⟨rfl, rfl⟩
  · split at member
    · cases List.mem_singleton.mp member
      refine ⟨rfl, ?_⟩
      cases kind : decl.kind <;>
        simp [Diagnostic.memberMustBeGenerated, Diagnostic.aboutMember, kind,
          MemberKind.isAccessor, DiagnosticKind.isTypeLevel]
    · cases member

private theorem signature_faults_of_member :
    ∀ fault ∈ decl.signatureFaults, MemberFault decl fault := by
  intro fault member
  obtain ⟨reason, _, rfl⟩ := List.mem_map.mp member
  exact ⟨rfl, rfl⟩

private theorem parameter_name_faults_of_member (idents taken : List String) :
    ∀ fault ∈ (decl.parameterNameFaults idents taken).1, MemberFault decl fault := by
  induction idents generalizing taken with
  | nil =>
    intro fault member
    cases member
  | cons ident rest ih =>
    intro fault member
    simp only [Declaration.parameterNameFaults] at member
    rcases List.mem_append.mp member with here | later
    · split at here
      · cases List.mem_singleton.mp here
        exact ⟨rfl, rfl⟩
      · split at here
        · cases List.mem_singleton.mp here
          exact ⟨rfl, rfl⟩
        · cases here
    · exact ih _ fault later

private theorem receiver_faults_of_member (receiver : Option String) (taken : List String) :
    ∀ fault ∈ decl.receiverFaults receiver taken, MemberFault decl fault := by
  intro fault member
  cases receiver with
  | none => cases member
  | some name =>
    simp only [Declaration.receiverFaults] at member
    split at member
    · cases List.mem_singleton.mp member
      exact ⟨rfl, rfl⟩
    · cases member

private theorem name_faults_of_member (plan : MemberPlan) :
    ∀ fault ∈ decl.nameFaults plan, MemberFault decl fault := by
  intro fault member
  simp only [Declaration.nameFaults, List.mem_append] at member
  rcases member with (((function | entryPoint) | parameter) | receiver) | path
  · split at function
    · cases function
    · cases List.mem_singleton.mp function
      exact ⟨rfl, rfl⟩
  · split at entryPoint
    · cases entryPoint
    · cases List.mem_singleton.mp entryPoint
      exact ⟨rfl, rfl⟩
  · exact parameter_name_faults_of_member _ _ fault parameter
  · exact receiver_faults_of_member _ _ fault receiver
  · obtain ⟨_, _, rfl⟩ := List.mem_map.mp path
    exact ⟨rfl, rfl⟩

private theorem crossing_faults_of_member :
    ∀ fault ∈ decl.crossingFaults, MemberFault decl fault := by
  intro fault member
  rcases List.mem_append.mp member with parameter | result
  · obtain ⟨value, _, found⟩ := List.mem_filterMap.mp parameter
    obtain ⟨violation, _, rfl⟩ := Option.map_eq_some_iff.mp found
    cases violation with
    | cannotPassByRef => exact ⟨rfl, rfl⟩
    | cannotBeReturned => exact ⟨rfl, rfl⟩
  · split at result
    · cases List.mem_singleton.mp result
      exact ⟨rfl, rfl⟩
    · cases result

/-- Whatever stage refuses a member, all of its faults point at that member and at nothing more. -/
theorem refused_of_member {faults : List Diagnostic} (refused : Refused config decl faults) :
    ∀ fault ∈ faults, MemberFault decl fault := by
  cases refused with
  | attributes found => exact attribute_faults_of_member
  | signature attributes found => exact signature_faults_of_member
  | names attributes signature found => exact name_faults_of_member _
  | crossings attributes signature names found => exact crossing_faults_of_member

/-- A container that is not refused has a name of the right syntax. -/
theorem container_name_accepted {container : Container} (accepted : container.fault? = none) :
    Grammar.isIdentifier container.name = true := by
  by_cases usable : Grammar.isIdentifier container.name = true
  · exact usable
  · grind [Container.fault?]

/-- What the stage of the names asks of every text that it looks at. -/
structure NamesAccepted (decl : Declaration) (plan : MemberPlan) : Prop where
  functionName : Grammar.isIdentifier plan.symbols.functionName = true
  slot : Grammar.isIdentifier plan.symbols.slot = true
  parameters : ∀ parameter ∈ plan.params, Declaration.isParameterName parameter.ident = true
  receiver : ∀ name ∈ plan.symbols.receiver, Grammar.isIdentifier name = true
  typePaths : ∀ path ∈ decl.typePaths, Grammar.isType path = true

private theorem parameter_names_accepted {idents taken : List String}
    (silent : (decl.parameterNameFaults idents taken).1 = []) :
    ∀ ident ∈ idents, Declaration.isParameterName ident = true := by
  induction idents generalizing taken with
  | nil =>
    intro ident member
    cases member
  | cons first rest ih =>
    simp only [Declaration.parameterNameFaults, List.append_eq_nil_iff] at silent
    obtain ⟨here, later⟩ := silent
    intro ident member
    rcases List.mem_cons.mp member with rfl | member
    · by_cases usable : Declaration.isParameterName ident = true
      · exact usable
      · simp [usable] at here
    · exact ih later ident member

private theorem receiver_accepted {receiver : Option String} {taken : List String}
    (silent : decl.receiverFaults receiver taken = []) :
    ∀ name ∈ receiver, Grammar.isIdentifier name = true := by
  rintro name (rfl : receiver = some name)
  by_cases usable : Grammar.isIdentifier name = true
  · exact usable
  · simp [Declaration.receiverFaults, usable] at silent

/-- A member without a fault in its names has names and type paths of the right syntax only. -/
theorem names_accepted {plan : MemberPlan} (silent : decl.nameFaults plan = []) :
    NamesAccepted decl plan := by
  simp only [Declaration.nameFaults, List.append_eq_nil_iff] at silent
  obtain ⟨⟨⟨⟨function, slot⟩, parameters⟩, receiver⟩, paths⟩ := silent
  constructor
  case functionName => simpa using function
  case slot => simpa using slot
  case parameters =>
    intro parameter member
    exact parameter_names_accepted parameters _ (List.mem_map_of_mem member)
  case receiver => exact receiver_accepted receiver
  case typePaths =>
    intro path member
    have listed := List.filter_eq_nil_iff.mp (List.map_eq_nil_iff.mp paths) path member
    simpa using listed

end NativeThunks.PlanStages
