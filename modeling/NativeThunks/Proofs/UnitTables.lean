import NativeThunks.Proofs.ScalarWrapping

/-! The tables of a unit and its text. A unit lists its members and its wrappers beside its text,
and the text is made of exactly what is listed: a static for every member, then a function for every
member in one block, then the definitions of every wrapper, each list in its order. -/
namespace NativeThunks.UnitTables
open ContainerOutcomes RenderedLines ScalarWrapping SourceSections UnitHeader WrapperTables

variable {config : Config} {wrappers : List Wrapper} {unit : GeneratedUnit}

/-- A line of text at a level. -/
def textLine (level : Nat) (content : String) : String := indentation level ++ content ++ "\n"

/-- A block around a text. Its first line ends with the opening brace. -/
def textBlock (level : Nat) (head inner : String) : String :=
  textLine level head ++ inner ++ textLine level "\x7d"

/-- The static of a slot, with the arguments of its signature as they are written. -/
def slotText (config : Config) (plan : MemberPlan) (written : List WrittenArgument) : String :=
  textLine 1 "#[doc(hidden)]" ++ textLine 1 (slotLine config plan (written.map (·.type)))

/-- What the head of a function says besides its name: who sees it, and its types. -/
structure FunctionHead where
  visibility : String
  parameters : String
  result : String

/-- The head of the function of a member. -/
def FunctionHead.ofPlan (plan : MemberPlan) : FunctionHead where
  visibility := plan.decl.effectiveVisibility.insideUnit
  parameters := ", ".intercalate plan.signature
  result := plan.returnSuffix plan.ret.managedReturnType

/-- A function that resolves a slot with an entry point before all else. -/
def functionText (name slot entryPoint : String) (head : FunctionHead) (statements : List Line) :
    String :=
  textLine 2 ("/// Calls the native entry point `" ++ entryPoint ++ "`.") ++
  textBlock 2
    (head.visibility ++ " fn " ++ name ++ "(" ++ head.parameters ++ ")" ++ head.result ++ " \x7b")
    (textLine 3 ("let __native = " ++ slot ++ ".get_or_resolve(\"" ++ entryPoint ++ "\");") ++
      render 3 statements)

/-- The structure of a wrapper. -/
def structureText (wrapper : Wrapper) : String :=
  textBlock 1 ("struct " ++ wrapper.name ++ " \x7b")
    (textLine 2 ("data: " ++ wrapper.underlying ++ ","))

/-- The conversion of a native value to its wrapper. -/
def conversionText (wrapper : Wrapper) : String :=
  textBlock 1
    ("impl ::core::convert::From<" ++ wrapper.underlying ++ "> for " ++ wrapper.name ++ " \x7b")
    (textLine 2 "#[inline(always)]" ++
      textBlock 2 ("fn from(data: " ++ wrapper.underlying ++ ") -> Self \x7b")
        (textLine 3 "Self \x7b data \x7d"))

/-- The definition of a wrapper: its structure with three attributes, and its conversion. -/
def wrapperText (wrapper : Wrapper) : String :=
  "\n" ++ (textLine 1 "#[doc(hidden)]" ++ (textLine 1 "#[repr(C)]" ++
    (textLine 1 "#[derive(Clone, Copy)]" ++ (structureText wrapper ++
      ("\n" ++ conversionText wrapper)))))

/-- The texts that stand for a member of a unit: its static and its function. The types in the one
and the arguments in the other are written beside the wrappers of the unit. -/
inductive TextsOf (config : Config) (wrappers : List Wrapper) :
    EmittedMember → String × String → Prop where
  | planned (plan : MemberPlan) (written : List WrittenArgument)
      (positions : List.Forall₂ (Writes config wrappers)
        (plan.nativeArguments config.runtimePath) written) :
      TextsOf config wrappers (.ofPlan plan)
        (slotText config plan written,
          functionText plan.symbols.functionName plan.symbols.slot plan.symbols.entryPoint
            (.ofPlan plan) (plan.body config.runtimePath written).tail)

/-- The text of a unit from the texts of its members, in their order. -/
def sourceText (config : Config) (unit : GeneratedUnit) (texts : List (String × String)) : String :=
  (if config.emitHeader then headerOf unit else "") ++ moduleStart unit.name ++
    String.join (texts.map (·.1)) ++ implStart unit.name ++ "\n".intercalate (texts.map (·.2)) ++
    "    \x7d\n" ++ String.join (unit.wrappers.map wrapperText) ++ "\x7d\n"

private theorem render_textLine (level : Nat) (content : String) (rest : List Line) :
    render level (.text content :: rest) = textLine level content ++ render level rest :=
  render_text level content rest

/-- The lines of a block. -/
def blockLines (head : String) (inner : List Line) : List Line :=
  .opening head :: (inner ++ [.closing])

private theorem render_blockLines (level : Nat) (head : String) {inner : List Line}
    (inside : Balanced inner) :
    render level (blockLines head inner) = textBlock level head (render (level + 1) inner) := by
  have ending : "\x7d\n" = "\x7d" ++ "\n" := rfl
  rw [blockLines, render_block level _ inside, ending, textBlock, textLine, textLine]
  simp only [String.append_assoc]

private theorem render_nil (level : Nat) : render level [] = "" := rfl

private theorem render_slot (config : Config) (plan : MemberPlan) (written : List WrittenArgument) :
    render 1 (plan.slot config written) = slotText config plan written := by
  have lines : plan.slot config written =
      [.text "#[doc(hidden)]", .text (slotLine config plan (written.map (·.type)))] := rfl
  rw [lines, render_textLine, render_textLine, render_nil, String.append_empty, slotText]

private theorem render_function (plan : MemberPlan) (runtime : String)
    (written : List WrittenArgument) :
    render 2 (plan.function runtime written) =
      functionText plan.symbols.functionName plan.symbols.slot plan.symbols.entryPoint
        (.ofPlan plan) (plan.body runtime written).tail := by
  have lines : plan.function runtime written =
      .text ("/// Calls the native entry point `" ++ plan.symbols.entryPoint ++ "`.") ::
        blockLines (plan.decl.effectiveVisibility.insideUnit ++ " fn " ++
          plan.symbols.functionName ++ "(" ++ ", ".intercalate plan.signature ++ ")" ++
          plan.returnSuffix plan.ret.managedReturnType ++ " \x7b")
          (plan.body runtime written) := rfl
  have body : plan.body runtime written = .text ("let __native = " ++ plan.symbols.slot ++
      ".get_or_resolve(\"" ++ plan.symbols.entryPoint ++ "\");") ::
        (plan.body runtime written).tail := rfl
  rw [lines, render_textLine, render_blockLines _ _ (balanced_body plan runtime written), body,
    render_textLine]
  rfl

/-- A definition is two blocks, the second with a block of its own inside. -/
theorem definition_eq (wrapper : Wrapper) : wrapper.definition =
    .blank :: .text "#[doc(hidden)]" :: .text "#[repr(C)]" :: .text "#[derive(Clone, Copy)]" ::
      (blockLines ("struct " ++ wrapper.name ++ " \x7b")
          [.text ("data: " ++ wrapper.underlying ++ ",")] ++
        .blank :: blockLines
          ("impl ::core::convert::From<" ++ wrapper.underlying ++ "> for " ++ wrapper.name ++
            " \x7b")
          (.text "#[inline(always)]" :: blockLines
            ("fn from(data: " ++ wrapper.underlying ++ ") -> Self \x7b")
            [.text "Self \x7b data \x7d"])) := rfl

private theorem render_wrapper (wrapper : Wrapper) :
    render 1 wrapper.definition = wrapperText wrapper := by
  have field : Balanced [.text ("data: " ++ wrapper.underlying ++ ",")] := .text _
  have value : Balanced [.text "Self \x7b data \x7d"] := .text _
  have item : Balanced (blockLines ("struct " ++ wrapper.name ++ " \x7b")
      [.text ("data: " ++ wrapper.underlying ++ ",")]) := .block _ _ field
  have inner : Balanced (blockLines ("fn from(data: " ++ wrapper.underlying ++ ") -> Self \x7b")
      [.text "Self \x7b data \x7d"]) := .block _ _ value
  rw [definition_eq, render_blank, render_textLine, render_textLine, render_textLine,
    render_append item, render_blockLines _ _ field, render_blank,
    render_blockLines _ _ (.cons_text _ inner), render_textLine, render_textLine,
    render_blockLines _ _ value, render_textLine, render_nil, render_nil, String.append_empty,
    String.append_empty]
  rfl

/-- Functions are rendered with an empty line between two of them. -/
theorem render_functions {thunks : List Thunk} (each : ∀ thunk ∈ thunks, BalancedThunk thunk) :
    functionSection thunks =
      "\n".intercalate (thunks.map fun thunk => render 2 thunk.function) := by
  induction thunks with
  | nil => rfl
  | cons thunk rest ih =>
    have first := (each thunk List.mem_cons_self).function
    have later := ih fun other member => each other (List.mem_cons_of_mem _ member)
    cases rest with
    | nil => simp [functionSection, functionLines]
    | cons next rest =>
      rw [functionSection, functionLines_cons_cons, render_append first, render_blank,
        ← functionSection, later]
      simp [String.append_assoc]

/-- The texts of the members of a unit are those of its thunks. -/
theorem texts_of_thunks {plans : List MemberPlan} {thunks : List Thunk}
    (made : List.Forall₂ (ThunkOf config wrappers) plans thunks) :
    List.Forall₂ (TextsOf config wrappers) (plans.map .ofPlan)
      (thunks.map fun thunk => (render 1 thunk.slot, render 2 thunk.function)) := by
  refine List.forall₂_map_left_iff.mpr (List.forall₂_map_right_iff.mpr
    (made.imp fun plan thunk thunkOf => ?_))
  obtain ⟨written, positions, rfl⟩ := thunkOf
  rw [render_slot, render_function]
  exact .planned plan written positions

/-- The text that is put together from thunks is the one made of the texts of their members. -/
theorem assembled_eq (config : Config) (unit : GeneratedUnit) {thunks : List Thunk}
    (each : ∀ thunk ∈ thunks, BalancedThunk thunk) :
    assembled config.emitHeader unit thunks = sourceText config unit
      (thunks.map fun thunk => (render 1 thunk.slot, render 2 thunk.function)) := by
  have slots : slotSection thunks = String.join (thunks.map fun thunk => render 1 thunk.slot) :=
    render_flatMap fun thunk member => (each thunk member).slot
  have definitions : wrapperSection unit.wrappers =
      String.join (unit.wrappers.map wrapperText) := by
    rw [wrapperSection, render_flatMap fun wrapper _ => balanced_definition wrapper]
    simp only [render_wrapper]
  rw [assembled, slots, render_functions each, definitions, sourceText, List.map_map, List.map_map]
  rfl

/-- Every unit of a usable configuration has a text that is made of the entries of its tables:
behind the header and the start of the module one static for every member, then one function for
every member, then one structure with its conversion for every wrapper. -/
theorem source_lists_tables (set : DeclarationSet) (valid : config.isValid = true) :
    ∃ generation, Generation.run config set = .ok generation ∧
      ∀ unit ∈ generation.units, ∃ texts : List (String × String),
        List.Forall₂ (TextsOf config unit.wrappers) unit.members texts ∧
          unit.source = sourceText config unit texts := by
  refine ⟨_, run_of_valid valid set, ?_⟩
  intro unit member
  obtain ⟨first, origin⟩ := unit_origin member
  have texts := texts_of_thunks (unit_thunks origin.selected)
  rw [← origin.unitOf.members] at texts
  refine ⟨_, texts, ?_⟩
  rw [unit_source origin.selected, assembled_eq config unit (ofPlans_balanced config _)]

/-- Two of four members are written, and the unit has two wrappers. -/
theorem source_lists_tables_mixed : Config.isValid {} = true ∧
    ∃ generation, Generation.run {} Samples.mixedLegality = .ok generation ∧
      generation.units.map (fun unit => (unit.members.length, unit.wrappers.length)) = [(2, 2)] ∧
      ∀ unit ∈ generation.units, ∃ texts : List (String × String),
        List.Forall₂ (TextsOf {} unit.wrappers) unit.members texts ∧
          unit.source = sourceText {} unit texts := by
  have valid : Config.isValid {} = true := by decide +kernel
  have sizes : (Generation.ofSet {} Samples.mixedLegality).units.map
      (fun unit => (unit.members.length, unit.wrappers.length)) = [(2, 2)] := by decide +kernel
  obtain ⟨generation, ran, lists⟩ := source_lists_tables Samples.mixedLegality valid
  obtain rfl := Except.ok.inj ((run_of_valid valid _).symm.trans ran)
  exact ⟨valid, _, ran, sizes, lists⟩

end NativeThunks.UnitTables
