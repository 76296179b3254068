import NativeThunks.Proofs.SplicedTexts
import NativeThunks.Proofs.TidyLines

/-! The indentation of a unit. As long as no text that is copied into it has a line feed, every line looks
like what it is; so every line stands behind four blanks for every block that a reader sees open. Only the
answers of truth values begin with a text that is copied, the path of the run-time pieces, and white space
in front of that path comes on top of the blanks. -/
namespace NativeThunks.Indentation
open BlockDepth RenderedLines SourceSections SplicedTexts TidyLines UnitWriters WrapperNumbering

variable {config : Config} {container : Container} {nativeType : String} {plan : MemberPlan}
  {plans : List MemberPlan} {line : Line}

/-- The texts that the code of a unit is put together from. -/
def splicedTexts (config : Config) (container : Container) (nativeType : String)
    (plans : List MemberPlan) : List String :=
  (if config.emitHeader then [container.path, nativeType] else []) ++ container.name ::
    plans.flatMap fun plan => splicedNames container plan ++ splicedPaths config plan

/-- Every line that is not empty stands behind exactly four blanks for every block that is open. -/
def Indented (text : String) : Prop :=
  ∀ front line rest, linesOf text = front ++ line :: rest → line ≠ [] →
    ∃ depth own, depthOf? front line = some depth ∧ line = blanks depth ++ own ∧
      leadsBlank own = false

/-- Between two functions is an empty line, and nothing else stands beside them. -/
theorem mem_functionLines {thunks : List Thunk} (member : line ∈ functionLines thunks) :
    line = .blank ∨ ∃ thunk ∈ thunks, line ∈ thunk.function := by
  induction thunks with
  | nil => cases member
  | cons first rest ih =>
    cases rest with
    | nil =>
      have only : functionLines [first] = first.function := by simp [functionLines]
      exact .inr ⟨first, List.mem_cons_self, only ▸ member⟩
    | cons next rest =>
      rw [functionLines_cons_cons, List.mem_append, List.mem_cons] at member
      rcases member with here | empty | later
      · exact .inr ⟨first, List.mem_cons_self, here⟩
      · exact .inl empty
      · rcases ih later with empty | ⟨thunk, listed, inside⟩
        · exact .inl empty
        · exact .inr ⟨thunk, List.mem_cons_of_mem _ listed, inside⟩

private theorem function_subset {thunks : List Thunk} {thunk : Thunk} (member : thunk ∈ thunks) :
    thunk.function ⊆ functionLines thunks := by
  induction thunks with
  | nil => cases member
  | cons first rest ih =>
    cases rest with
    | nil =>
      have only : functionLines [first] = first.function := by simp [functionLines]
      rw [only, List.mem_singleton.mp member]
      exact List.Subset.refl _
    | cons next rest =>
      rw [functionLines_cons_cons]
      rcases List.mem_cons.mp member with rfl | later
      · exact List.subset_append_left _ _
      · intro line inside
        exact List.mem_append_right _ (List.mem_cons_of_mem _ (ih later inside))

/-- A unit into which no line feed is copied. -/
structure FlatUnit (config : Config) (container : Container) (nativeType : String)
    (plans : List MemberPlan) : Prop where
  header : config.emitHeader = true → OneLine container.path ∧ OneLine nativeType
  name : OneLine container.name
  members : ∀ plan ∈ plans, FlatMember plan ∧ OneLine config.runtimePath

private theorem flatMember (flat : ∀ text ∈ splicedNames container plan ++ splicedPaths config plan,
    OneLine text) : FlatMember plan ∧ OneLine config.runtimePath := by
  simp only [splicedNames, splicedPaths, List.forall_mem_append, List.forall_mem_cons,
    List.forall_mem_map, List.forall_mem_flatMap, Option.mem_toList] at flat
  obtain ⟨⟨⟨⟨-, function, slot, entryPoint, -⟩, receiver⟩, idents⟩, run, params, ret, -⟩ := flat
  exact ⟨⟨function, slot, entryPoint, receiver,
    fun parameter member => ⟨idents parameter member, params parameter member⟩, ret⟩, run⟩

private theorem flatUnit
    (flat : ∀ text ∈ splicedTexts config container nativeType plans, OneLine text) :
    FlatUnit config container nativeType plans := by
  obtain ⟨header, behind⟩ := List.forall_mem_append.mp flat
  obtain ⟨name, members⟩ := List.forall_mem_cons.mp behind
  rw [List.forall_mem_flatMap] at members
  refine ⟨fun on => ?_, name, fun plan member => flatMember (members plan member)⟩
  rw [if_pos on] at header
  exact ⟨header _ List.mem_cons_self, header _ (List.mem_cons_of_mem _ List.mem_cons_self)⟩

section
variable (flat : FlatUnit config container nativeType plans)
include flat

theorem FlatUnit.types :
    ∀ type ∈ (ThunkList.ofPlans config plans).wrappers.types, OneLine type := by
  intro type listed
  cases wraps : config.wrapScalars with
  | false =>
    rw [WrapperTables.ofPlans_wrappers, wraps] at listed
    cases listed
  | true =>
    rw [ofPlans_types wraps, List.mem_eraseDups] at listed
    obtain ⟨plan, member, used⟩ := List.mem_flatMap.mp listed
    exact (flat.members plan member).1.scalarTexts type used

theorem FlatUnit.definitions :
    ∀ line ∈ (ThunkList.ofPlans config plans).wrappers.definitions, Tidy line := by
  refine List.forall_mem_flatMap.mpr fun wrapper member => ?_
  rw [entries_eq, numbered] at member
  obtain ⟨index, inside, rfl⟩ := List.mem_mapIdx.mp member
  exact tidy_definition (oneLine_wrapperName index) (flat.types _ (List.getElem_mem inside))

/-- The lines of a unit are tidy but for the answers of truth values. -/
theorem FlatUnit.lines :
    ∀ line ∈ (ThunkList.ofPlans config plans).lines config container nativeType,
      Tidy line ∨ (∃ plan ∈ plans, Answers plan) ∧ line = .text (answerText config.runtimePath) := by
  have thunks := ofPlans_thunksBeside config plans (WrapperTables.Extends.refl _)
  have definitions := flat.definitions
  have name := flat.name
  generalize ThunkList.ofPlans config plans = list at thunks definitions ⊢
  unfold ThunkList.lines ThunkList.module
  simp only [List.forall_mem_append, List.forall_mem_cons, List.not_mem_nil, IsEmpty.forall_iff,
    implies_true, and_true, and_assoc]
  refine ⟨?header, ?prelude, ?slots, .inl tidy_blank, ?impl, ?functions, .inl tidy_closing,
    ?definitions, .inl tidy_closing⟩
  case header =>
    split
    · rename_i on
      obtain ⟨path, type⟩ := flat.header on
      intro line member
      exact .inl (tidy_header path type list.size line member)
    · exact List.forall_mem_nil _
  case prelude =>
    intro line member
    exact .inl (tidy_prelude name line member)
  case slots =>
    intro line member
    rw [ThunkList.slots, thunks, List.mem_flatMap] at member
    obtain ⟨_, listed, inside⟩ := member
    obtain ⟨plan, planned, rfl⟩ := List.mem_map.mp listed
    obtain ⟨texts, run⟩ := flat.members plan planned
    exact .inl (tidy_slot texts (texts.carried run list.wrappers) config run line inside)
  case impl => exact .inl (tidy_opening 'i' (by simp +decide [Framed, name]) (by decide))
  case functions =>
    intro line member
    rcases mem_functionLines member with rfl | ⟨_, listed, inside⟩
    · exact .inl tidy_blank
    rw [thunks] at listed
    obtain ⟨plan, planned, rfl⟩ := List.mem_map.mp listed
    obtain ⟨texts, run⟩ := flat.members plan planned
    obtain tidy | ⟨answers, answer⟩ :=
      tidy_function texts run (texts.carried run list.wrappers) line inside
    · exact .inl tidy
    · exact .inr ⟨⟨plan, planned, answers⟩, answer⟩
  case definitions =>
    intro line member
    exact .inl (definitions line member)

end

/-- A unit has the answer of every member that returns a truth value. -/
theorem answer_mem_lines (config : Config) (container : Container) (nativeType : String)
    (member : plan ∈ plans) (answers : Answers plan) :
    .text (answerText config.runtimePath) ∈
      (ThunkList.ofPlans config plans).lines config container nativeType := by
  have thunks := ofPlans_thunksBeside config plans (WrapperTables.Extends.refl _)
  generalize ThunkList.ofPlans config plans = list at thunks ⊢
  have listed : thunkBeside config list.wrappers plan ∈ list.thunks :=
    thunks ▸ List.mem_map_of_mem member
  have inside : .text (answerText config.runtimePath) ∈ list.functions :=
    function_subset listed (answer_mem_function answers)
  simp [ThunkList.lines, ThunkList.module, inside]

section
variable (flat : FlatUnit config container nativeType plans)
include flat

theorem FlatUnit.legible :
    ∀ line ∈ (ThunkList.ofPlans config plans).lines config container nativeType, Legible line := by
  intro line member
  rcases flat.lines line member with tidy | ⟨-, rfl⟩
  · exact tidy.legible
  · exact legible_answerText config.runtimePath

theorem FlatUnit.unbroken :
    ∀ line ∈ (ThunkList.ofPlans config plans).lines config container nativeType, Unbroken line := by
  intro line member
  rcases flat.lines line member with tidy | ⟨⟨plan, planned, -⟩, rfl⟩
  · exact tidy.unbroken
  · exact oneLine_answerText (flat.members plan planned).2

/-- Every line of the text stands behind the blanks of its depth, and is flush but for the answers. -/
theorem FlatUnit.line_of_source {front rest : List (List Char)} {line : List Char}
    (split : linesOf ((ThunkList.ofPlans config plans).source config container nativeType) =
      front ++ line :: rest) (visible : line ≠ []) :
    ∃ depth own, depthOf? front line = some depth ∧ line = blanks depth ++ own ∧
      (leadsBlank own = false ∨
        own = (answerText config.runtimePath).toList ∧ ∃ plan ∈ plans, Answers plan) := by
  have balanced := balanced_lines config plans container nativeType
  obtain ⟨found, member, depth, deep, behind⟩ :=
    line_of_render balanced flat.legible flat.unbroken split visible
  refine ⟨depth, contentOf found, deep, behind, ?_⟩
  rcases flat.lines found member with tidy | ⟨answers, rfl⟩
  · exact .inl tidy.flush
  · exact .inr ⟨rfl, answers⟩

/-- The blanks are exact unless the configured path adds some of its own to an answer. -/
theorem FlatUnit.indented_iff :
    Indented ((ThunkList.ofPlans config plans).source config container nativeType) ↔
      leadsBlank config.runtimePath.toList = false ∨ ∀ plan ∈ plans, ¬Answers plan := by
  constructor
  · intro indented
    by_contra spaced
    obtain ⟨blank, some⟩ := not_or.mp spaced
    obtain ⟨plan, member, answers⟩ : ∃ plan ∈ plans, Answers plan := by simpa using some
    have balanced := balanced_lines config plans container nativeType
    have listed := answer_mem_lines config container nativeType member answers
    obtain ⟨front, rest, depth, split, deep⟩ :=
      render_of_line balanced flat.legible flat.unbroken listed Line.noConfusion
    have visible : blanks depth ++ contentOf (.text (answerText config.runtimePath)) ≠ [] := by
      simp [contentOf, answerText]
    obtain ⟨other, own, found, same, flush⟩ := indented front _ rest split visible
    obtain rfl := Option.some.inj (deep.symm.trans found)
    obtain rfl := List.append_cancel_left same
    exact blank ((leadsBlank_answerText _).symm.trans flush)
  · intro either front line rest split visible
    obtain ⟨depth, own, deep, behind, flush⟩ := flat.line_of_source split visible
    refine ⟨depth, own, deep, behind, flush.elim id ?_⟩
    rintro ⟨rfl, plan, member, answers⟩
    rcases either with flush | none
    · exact (leadsBlank_answerText _).trans flush
    · exact absurd answers (none plan member)

end

/-- As long as no text that is copied into a unit has a line feed, the blocks of the unit are ended in its
text, the last of them at its end, and every line that is not empty stands behind four blanks for every
block that is open. What follows the blanks is no white space, with one exception: the answer of a truth
value begins like the configured path of the run-time pieces. So the blanks are exact unless that path
begins with white space and a member returns a truth value. The writers of slots and functions are at
their own levels after every member. -/
theorem unit_indented_iff (config : Config) (container : Container) (nativeType : String)
    (plans : List MemberPlan)
    (flat : ∀ text ∈ splicedTexts config container nativeType plans, OneLine text) :
    let unit := (UnitWriter.ofPlans config plans).finish config container nativeType
    unit.text = (ThunkList.ofPlans config plans).source config container nativeType ∧
      (∀ front, front <+: plans → (UnitWriter.ofPlans config front).slots.level = 1 ∧
        (UnitWriter.ofPlans config front).functions.level = 2) ∧
      unit.level = 0 ∧ depthAfter? 0 (linesOf unit.text) = some 0 ∧
      (∀ front line rest, linesOf unit.text = front ++ line :: rest → line ≠ [] →
        ∃ depth own, depthOf? front line = some depth ∧ line = blanks depth ++ own ∧
          (leadsBlank own = false ∨
            own = (answerText config.runtimePath).toList ∧ ∃ plan ∈ plans, Answers plan)) ∧
      (Indented unit.text ↔
        leadsBlank config.runtimePath.toList = false ∨ ∀ plan ∈ plans, ¬Answers plan) := by
  intro unit
  have whole : unit = (Writer.ofLevel 0).putAll
      ((ThunkList.ofPlans config plans).lines config container nativeType) :=
    finish_eq config plans container nativeType
  have text : unit.text = (ThunkList.ofPlans config plans).source config container nativeType :=
    congrArg Writer.text whole
  have balanced := balanced_lines config plans container nativeType
  have copied := flatUnit flat
  have ended : depthAfter? 0 (linesOf unit.text) = some 0 := by
    rw [text]
    exact depthAfter_render balanced copied.legible copied.unbroken
  refine ⟨text, fun front _ => levels_kept config front, ?level, ended, ?lines, ?exact⟩
  case level => rw [whole, balanced.level, Writer.ofLevel]
  case lines =>
    intro front line rest split visible
    rw [text] at split
    exact copied.line_of_source split visible
  case exact =>
    rw [text]
    exact copied.indented_iff

/-- A member that opens two blocks around its call and returns a truth value. -/
theorem unit_indented_find :
    let camera := Container.ofPath "engine::Camera"
    let find := { Declaration.method camera "Find" with
      params := [{ name := "name", type := .str false },
        { name := "at", type := .primitive .i32, mode := .out }]
      ret := .bool }
    let plans := [MemberPlan.ofDeclaration find {}]
    find.plan {} = .ok (.ofDeclaration find {}) ∧
      (∀ text ∈ splicedTexts {} camera "Camera" plans, OneLine text) ∧
      Indented ((UnitWriter.ofPlans {} plans).finish {} camera "Camera").text := by
  intro camera find plans
  have flat : ∀ text ∈ splicedTexts {} camera "Camera" plans, OneLine text := by decide +kernel
  have flush : leadsBlank (Config.runtimePath {}).toList = false := by decide
  refine ⟨by decide +kernel, flat, ?_⟩
  exact (unit_indented_iff {} camera "Camera" plans flat).2.2.2.2.2.mpr (.inl flush)

/-- A path of the run-time pieces with a blank in front is accepted, as blanks are no part of a path. The
answer of a truth value then stands behind one blank more than its blocks have. -/
theorem answer_behind_blank :
    let config : Config := { runtimePath := " ::bridgegen_runtime" }
    let camera := Container.ofPath "engine::Camera"
    let enabled := Declaration.getter camera "Enabled" .bool
    let plans := [MemberPlan.ofDeclaration enabled config]
    config.isValid = true ∧ camera.fault? = none ∧
      enabled.plan config = .ok (.ofDeclaration enabled config) ∧
      (∀ text ∈ splicedTexts config camera "Camera" plans, OneLine text) ∧
      ¬Indented ((UnitWriter.ofPlans config plans).finish config camera "Camera").text := by
  intro config camera enabled plans
  have flat : ∀ text ∈ splicedTexts config camera "Camera" plans, OneLine text := by decide +kernel
  refine ⟨by decide +kernel, by decide +kernel, by decide +kernel, flat, ?_⟩
  intro indented
  rw [finish_eq] at indented
  rcases (flatUnit flat).indented_iff.mp indented with flush | none
  · exact absurd flush (by decide)
  · exact none _ List.mem_cons_self rfl

end NativeThunks.Indentation
