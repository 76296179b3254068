import NativeThunks.Proofs.CaseChange
import NativeThunks.Proofs.LexedNames
import NativeThunks.Proofs.PlanStages

/-! Texts that generated code copies verbatim. A comment or a line break in one of them swallows or
splits what stands beside it. Names are checked by reading them, and reading passes over blanks and
comments; so a name that was accepted may still hold either. Said here is when it does: a slash or a
line break in a name that was given is in the generated name as well, and nothing else is harmful. -/
namespace NativeThunks.SplicedTexts
open CaseChange Grammar LexedNames Naming PlanStages Text

variable {config : Config} {container : Container} {decl : Declaration} {plan : MemberPlan}

/-- A character that ends a line. -/
def isLineBreak (c : Char) : Bool := c == '\n' || c == '\r'

/-- A text that neither swallows nor splits what stands beside it. -/
structure Seamless (text : String) : Prop where
  uncommented : ¬HasComment text
  unbroken : ∀ c ∈ text.toList, isLineBreak c = false

/-- A character that comments begin with, or that ends a line. -/
def isSeam (c : Char) : Bool := c == '/' || isLineBreak c

/-- A text in which neither a comment nor a new line could begin. -/
def Plain (text : String) : Prop := ∀ c ∈ text.toList, isSeam c = false

instance (text : String) : Decidable (Plain text) :=
  List.decidableBAll (fun c => isSeam c = false) text.toList

/-- The names that the code for a member is put together from. -/
def splicedNames (container : Container) (plan : MemberPlan) : List String :=
  [container.name, plan.symbols.functionName, plan.symbols.slot, plan.symbols.entryPoint] ++
    plan.symbols.receiver.toList ++ plan.params.map (·.ident)

/-- The paths that the code for a member is put together from. -/
def splicedPaths (config : Config) (plan : MemberPlan) : List String :=
  config.runtimePath ::
    (plan.params.map (·.crossing.type) ++ [plan.ret.type]).flatMap TypeRef.paths

/-- The names as the declaration, its container and the configuration give them. -/
def givenNames (config : Config) (container : Container) (decl : Declaration) : List String :=
  [container.name, decl.name, decl.container.nativeTypeName, decl.nativeMemberName] ++
    (decl.receiverName config.receiverName).toList ++ decl.params.map (·.name)

private theorem seam_cases {c : Char} (seam : isSeam c = true) : c = '/' ∨ c = '\n' ∨ c = '\r' := by
  simpa [isSeam, isLineBreak] using seam

private theorem plain_iff (text : String) : Plain text ↔ ∀ c, isSeam c = true → c ∉ text.toList := by
  apply forall_congr'
  intro c
  constructor
  · intro plain seam member
    exact absurd seam (Bool.eq_false_iff.mp (plain member))
  · intro absent member
    exact Bool.eq_false_iff.mpr fun seam => absent seam member

@[simp] theorem plain_append (first second : String) :
    Plain (first ++ second) ↔ Plain first ∧ Plain second := by
  simp [Plain, or_imp, forall_and]

/-- What is plain is seamless, whether it is a name or not. -/
theorem Plain.seamless {text : String} (plain : Plain text) : Seamless text := by
  constructor
  case uncommented =>
    rintro ⟨comment, part, start, _⟩
    exact absurd (plain '/' (part.subset (slash_mem_of_comment start))) (by decide)
  case unbroken =>
    intro c member
    exact (Bool.or_eq_false_iff.mp (plain c member)).2

/-- For a name there is no difference. -/
theorem seamless_iff_plain {text : String} (accepted : isIdentifier text = true) :
    Seamless text ↔ Plain text := by
  constructor
  · intro seamless c member
    have slash : c ≠ '/' := by
      rintro rfl
      exact seamless.uncommented ((hasComment_iff_slash accepted).mpr member)
    exact Bool.or_eq_false_iff.mpr ⟨beq_eq_false_iff_ne.mpr slash, seamless.unbroken c member⟩
  · exact Plain.seamless

/-- A comment or a new line is no part of a word. -/
theorem stray_of_seam {c : Char} (seam : isSeam c = true) : isStray c = true := by
  rcases seam_cases seam with rfl | rfl | rfl <;> decide

/-- A name is plain in any case. -/
@[simp] theorem plain_snakeCase (name : String) : Plain (snakeCase name) ↔ Plain name := by
  rw [plain_iff, plain_iff]
  refine forall₂_congr fun c seam => not_congr ?_
  exact stray_mem_snakeCase (stray_of_seam seam)

/-- An escape adds a mark that is plain. -/
@[simp] theorem plain_escapeReserved (name : String) :
    Plain (escapeReserved name) ↔ Plain name := by
  have underscore : Plain "_" := by decide
  have raw : Plain "r#" := by decide
  unfold escapeReserved
  split
  · simp [underscore]
  · split <;> simp [raw]

@[simp] theorem plain_functionName (decl : Declaration) :
    Plain decl.functionName ↔ Plain decl.name := by
  have setter : Plain "set_" := by decide
  unfold Declaration.functionName
  split <;> simp [setter]

@[simp] theorem plain_entryPoint (decl : Declaration) :
    Plain decl.entryPoint ↔ Plain decl.container.nativeTypeName ∧ Plain decl.nativeMemberName := by
  have underscore : Plain "_" := by decide
  have mark : Plain decl.kind.accessorMark := by cases decl.kind <;> decide
  simp [Declaration.entryPoint, underscore, mark]

@[simp] theorem plain_slotName (entryPoint : String) :
    Plain (slotName entryPoint) ↔ Plain entryPoint := by
  have front : Plain "__" := by decide
  have back : Plain "_FunctionPointer" := by decide
  simp [slotName, front, back]

private theorem dropByteOrderMark_slot (entryPoint : String) :
    dropByteOrderMark (slotName entryPoint).toList =
      '_' :: '_' :: (entryPoint.toList ++ "_FunctionPointer".toList) := by
  simp [slotName, dropByteOrderMark]

/-- Where nothing hides in a comment, the slot is one word, and the entry point a part of it: the slot
begins with an underscore and ends with a letter, so no blank is at either end. -/
theorem entryPoint_letters {entryPoint : String}
    (accepted : isIdentifier (slotName entryPoint) = true) (plain : Plain entryPoint) :
    ∀ c ∈ entryPoint.toList, isIdentifierContinue c = true := by
  have noSlash : '/' ∉ (slotName entryPoint).toList := by
    intro member
    exact absurd (((plain_slotName _).mpr plain) '/' member) (by decide)
  obtain ⟨word, before, letters, after, split, taken, blank⟩ := spelled_plainly accepted noSlash
  rw [dropByteOrderMark_slot] at split
  obtain rfl : before = [] := by
    cases before with
    | nil => rfl
    | cons c rest =>
      obtain ⟨rfl, _⟩ := List.cons_eq_cons.mp split
      exact absurd (blank '_' (by simp)) (by decide)
  obtain rfl : after = [] := by
    rcases List.eq_nil_or_concat after with empty | ⟨rest, c, rfl⟩
    · exact empty
    · have last : 'r' = c := by simpa [List.getLast?_cons] using congrArg List.getLast? split
      exact absurd (blank c (by simp)) (last ▸ by decide)
  rw [List.append_nil] at split taken
  rcases takeAnyWord_cases taken with ⟨rest, word, rfl, _⟩ | ⟨found, taken, _⟩
  · cases split
  · obtain ⟨same, first, more, rfl, _, letter⟩ := takeWord_split taken
    rw [List.append_nil] at same
    obtain ⟨_, rfl⟩ := List.cons_eq_cons.mp (split.trans same)
    intro c member
    exact letter c (by simp [member])

/-- A letter begins no comment and ends no line. -/
theorem letter_not_seam {c : Char} (letter : isIdentifierContinue c = true) : isSeam c = false := by
  apply Bool.eq_false_iff.mpr
  intro seam
  rcases seam_cases seam with rfl | rfl | rfl <;> exact absurd letter (by decide)

private theorem splicedPaths_eq (config : Config) (decl : Declaration) :
    splicedPaths config (.ofDeclaration decl config) = config.runtimePath :: decl.typePaths := by
  simp only [splicedPaths, Declaration.typePaths, MemberPlan.ofDeclaration, List.map_map]
  rfl

/-- The generated names are plain as far as the given ones are. -/
theorem spliced_plain_iff (config : Config) (container : Container) (decl : Declaration) :
    (∀ text ∈ splicedNames container (.ofDeclaration decl config), Plain text) ↔
      ∀ name ∈ givenNames config container decl, Plain name := by
  simp only [splicedNames, givenNames, List.forall_mem_append, List.forall_mem_cons,
    MemberPlan.ofDeclaration, MemberSymbols.ofDeclaration, List.map_map, List.forall_mem_map]
  simp [PlannedParameter.ofParameter]

/-- Every generated name was read as an identifier, the entry point as a part of its slot. -/
theorem spliced_accepted (accepted : container.fault? = none) (names : NamesAccepted decl plan) :
    ∀ text ∈ splicedNames container plan,
      text = plan.symbols.entryPoint ∨ isIdentifier text = true := by
  simp only [splicedNames, List.forall_mem_append, List.forall_mem_cons, List.forall_mem_map,
    Option.mem_toList]
  refine ⟨⟨?fixed, ?receiver⟩, ?parameters⟩
  case fixed =>
    exact ⟨.inr (container_name_accepted accepted), .inr names.functionName, .inr names.slot,
      .inl trivial, List.forall_mem_nil _⟩
  case receiver =>
    intro name given
    exact .inr (names.receiver name given)
  case parameters =>
    intro parameter member
    exact .inr (Bool.and_eq_true_iff.mp (names.parameters parameter member)).1

/-- The generated names are seamless, and the entry point is made of letters, exactly when all of them
are plain. -/
theorem spliced_seamless_iff (accepted : container.fault? = none)
    (names : NamesAccepted decl plan) (slot : plan.symbols.slot = slotName plan.symbols.entryPoint) :
    ((∀ text ∈ splicedNames container plan, Seamless text) ∧
        ∀ c ∈ plan.symbols.entryPoint.toList, isIdentifierContinue c = true) ↔
      ∀ text ∈ splicedNames container plan, Plain text := by
  constructor
  · rintro ⟨seamless, letters⟩ text member
    rcases spliced_accepted accepted names text member with rfl | read
    · intro c occurs
      exact letter_not_seam (letters c occurs)
    · exact (seamless_iff_plain read).mp (seamless text member)
  · intro plain
    refine ⟨fun text member => (plain text member).seamless, ?_⟩
    exact entryPoint_letters (slot ▸ names.slot) (plain _ (by simp [splicedNames]))

/-- The texts that the code of a legal member is put together from are seamless, and its entry point
is made of letters, exactly when no given name has a slash or a line break in it, and no given path
a comment or a line break. -/
theorem legal_member_seamless_iff (accepted : container.fault? = none)
    (planned : decl.plan config = .ok plan) :
    ((∀ text ∈ splicedNames container plan ++ splicedPaths config plan, Seamless text) ∧
        ∀ c ∈ plan.symbols.entryPoint.toList, isIdentifierContinue c = true) ↔
      (∀ name ∈ givenNames config container decl, Plain name) ∧
        ∀ path ∈ config.runtimePath :: decl.typePaths, Seamless path := by
  obtain ⟨passed, rfl⟩ := plan_ok planned
  have names := spliced_seamless_iff accepted (names_accepted passed.names) rfl
  rw [List.forall_mem_append, splicedPaths_eq, ← spliced_plain_iff, ← names]
  exact and_right_comm

theorem legal_member_seamless_kind :
    let camera := Container.ofPath "engine::Camera"
    let kind := Declaration.getter camera "Kind" (.enum "CameraKind" .u8)
    let plan := MemberPlan.ofDeclaration kind {}
    camera.fault? = none ∧ kind.plan {} = .ok plan ∧
      (∀ text ∈ splicedNames camera plan ++ splicedPaths {} plan, Seamless text) ∧
      ∀ c ∈ plan.symbols.entryPoint.toList, isIdentifierContinue c = true := by
  intro camera kind plan
  have accepted : camera.fault? = none := by decide +kernel
  have planned : kind.plan {} = .ok plan := by decide +kernel
  have plain : ∀ text ∈ givenNames {} camera kind ++ Config.runtimePath {} :: kind.typePaths,
      Plain text := by decide +kernel
  rw [List.forall_mem_append] at plain
  refine ⟨accepted, planned, (legal_member_seamless_iff accepted planned).mpr ⟨plain.1, ?_⟩⟩
  intro path member
  exact (plain.2 path member).seamless

/-- The name of a native member that ends in a comment is accepted. The comment takes the end of the
slot with it, and the entry point has blanks and slashes. -/
theorem entry_point_with_comment :
    let camera := Container.ofPath "engine::Camera"
    let render := { Declaration.method camera "Render" with nativeName := some "Render // now" }
    let plan := MemberPlan.ofDeclaration render {}
    Config.isValid {} = true ∧ camera.fault? = none ∧ render.plan {} = .ok plan ∧
      ¬(∀ text ∈ splicedNames camera plan ++ splicedPaths {} plan, Seamless text) ∧
      ¬∀ c ∈ plan.symbols.entryPoint.toList, isIdentifierContinue c = true := by
  intro camera render plan
  have planned : render.plan {} = .ok plan := by decide +kernel
  have read : isIdentifier plan.symbols.slot = true := by decide +kernel
  refine ⟨by decide +kernel, by decide +kernel, planned, fun seamless => ?_, fun letters => ?_⟩
  · have slot := seamless plan.symbols.slot (by simp [splicedNames])
    exact absurd ((seamless_iff_plain read).mp slot) (by decide +kernel)
  · exact absurd (letters '/' (by decide +kernel)) (by decide +kernel)

end NativeThunks.SplicedTexts
