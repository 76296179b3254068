import NativeThunks.Proofs.RenderedLines
import NativeThunks.Proofs.RenderingOptions
import NativeThunks.Proofs.SplitTexts

/-! The header of a unit. Whether units get one is a setting that nothing else looks at: two
generations that differ in it have the same diagnostics and the same units, except that each source
of the one is the header followed by the source of the other. The header copies the path and the
native type of the unit behind the mark of a comment, so it is a comment as far as neither of the two
begins a line of its own. -/
namespace NativeThunks.UnitHeader
open ContainerOutcomes RenderedLines RenderingOptions SplitTexts WrapperTables

variable {config : Config} {set : DeclarationSet}

/-- The configuration with headers switched on or off. -/
def headed (config : Config) (on : Bool) : Config := { config with emitHeader := on }

private theorem isValid_headed (config : Config) (on : Bool) :
    (headed config on).isValid = config.isValid := rfl

/-- The lines of the header of a unit, as far as they are lines. -/
def headerLines (unit : GeneratedUnit) : List String := [
  "// Generated by bridgegen. DO NOT EDIT.",
  "//",
  "// Type: " ++ unit.path,
  "// Native type: " ++ unit.nativeType,
  "// Native members: " ++ toString unit.members.length,
  ""]

/-- The header of a unit. -/
def headerOf (unit : GeneratedUnit) : String :=
  String.join ((headerLines unit).map (· ++ "\n"))

/-- A unit with its header. -/
def withHeader (unit : GeneratedUnit) : GeneratedUnit :=
  { unit with source := headerOf unit ++ unit.source }

/-- A generation whose units have their headers. -/
def withHeaders (generation : Generation) : Generation :=
  { generation with units := generation.units.map withHeader }

theorem size_ofPlans (config : Config) (plans : List MemberPlan) :
    (ThunkList.ofPlans config plans).size = plans.length := by
  induction plans using List.reverseRecOn with
  | nil => rfl
  | append_singleton plans plan ih =>
    simp only [ThunkList.size] at ih
    simp [ofPlans_snoc, ThunkList.size, ThunkList.add, ih]

/-- The lines that are rendered in front of a unit are its header. -/
theorem render_unitHeader (container : Container) (unit : GeneratedUnit)
    (path : unit.path = container.path) :
    render 0 (unitHeader container unit.nativeType unit.members.length) = headerOf unit := by
  simp [render, unitHeader, Writer.putAll, Writer.put, Writer.line, Writer.blank, Writer.append,
    Writer.ofLevel, indentation, headerOf, headerLines, String.join, path]

theorem balanced_unitHeader (container : Container) (nativeType : String) (members : Nat) :
    Balanced (unitHeader container nativeType members) :=
  .cons_text _ (.cons_text _ (.cons_text _ (.cons_text _ (.cons_text _ .blank))))

/-- Only the header makes a difference to the source, and it stands in front. -/
theorem source_headed (config : Config) (list : ThunkList) (container : Container)
    (nativeType : String) :
    list.source (headed config true) container nativeType =
      render 0 (unitHeader container nativeType list.size) ++
        list.source (headed config false) container nativeType :=
  render_append (balanced_unitHeader container nativeType list.size) (list.module container)

private theorem unitOfPlans_headed (config : Config) (container : Container)
    (plans : List MemberPlan) :
    unitOfPlans? (headed config true) container plans =
      (unitOfPlans? (headed config false) container plans).map withHeader := by
  by_cases empty : plans.isEmpty = true
  · simp only [unitOfPlans?, if_pos empty, Option.map_none]
  · have members : (ThunkList.ofPlans (headed config false) plans).size =
        (plans.map EmittedMember.ofPlan).length := by rw [size_ofPlans, List.length_map]
    have thunks : ThunkList.ofPlans (headed config true) plans =
        ThunkList.ofPlans (headed config false) plans := by
      apply ofPlans_congr <;> rfl
    simp only [unitOfPlans?, if_neg empty, Option.map_some, thunks, source_headed, members]
    rw [withHeader, ← render_unitHeader container _ rfl]

/-- The setting is not looked at before units are made, so the two generations have counterparts. -/
theorem ofSet_headed (config : Config) (set : DeclarationSet) :
    Generation.ofSet (headed config true) set =
      withHeaders (Generation.ofSet (headed config false) set) := by
  have same : SameReceivers (headed config false) (headed config true) set := fun _ _ => rfl
  obtain ⟨units, diagnostics⟩ := ofSet_counterparts same
  have mapped : List.Forall₂ (· = ·)
      ((Generation.ofSet (headed config false) set).units.map withHeader)
      (Generation.ofSet (headed config true) set).units := by
    refine List.forall₂_map_left_iff.mpr (units.imp fun left right both => ?_)
    obtain ⟨_, speaker, _, _, _, leftMade, rightMade⟩ := both
    rw [unitOfPlans_headed, leftMade] at rightMade
    exact Option.some.inj rightMade
  rw [List.forall₂_eq_eq_eq] at mapped
  exact congrArg₂ Generation.mk mapped.symm diagnostics

/-- A line that is empty or a comment. -/
def IsComment (line : List Char) : Prop := line = [] ∨ ['/', '/'] <+: line

instance (line : List Char) : Decidable (IsComment line) :=
  inferInstanceAs (Decidable (line = [] ∨ ['/', '/'] <+: line))

/-- A text of which every line is empty or a comment. -/
def AllComments (text : String) : Prop := ∀ line ∈ text.toList.splitOn '\n', IsComment line

instance (text : String) : Decidable (AllComments text) :=
  inferInstanceAs (Decidable (∀ line ∈ text.toList.splitOn '\n', IsComment line))

/-- The lines that begin inside a text. The first line begins before it. -/
def innerLines (text : String) : List (List Char) := (text.toList.splitOn '\n').tail

private theorem allComments_join (lines : List String) :
    AllComments (String.join (lines.map (· ++ "\n"))) ↔ ∀ line ∈ lines, AllComments line := by
  induction lines with
  | nil => simp [AllComments, IsComment]
  | cons line rest ih =>
    have split : (String.join ((line :: rest).map (· ++ "\n"))).toList =
        line.toList ++ '\n' :: (String.join (rest.map (· ++ "\n"))).toList := by simp
    rw [List.forall_mem_cons, ← ih, AllComments, split, splitOn_append_cons,
      List.forall_mem_append]
    rfl

/-- Behind the mark of a comment, a text has to take care of the lines that begin inside it. -/
theorem allComments_titled {title : String} (flat : '\n' ∉ title.toList)
    (marked : ['/', '/'] <+: title.toList) (text : String) :
    AllComments (title ++ text) ↔ ∀ line ∈ innerLines text, IsComment line := by
  obtain ⟨first, rest, lines⟩ := exists_cons_splitOn '\n' text.toList
  have comment : IsComment (title.toList ++ first) := .inr (marked.trans (List.prefix_append _ _))
  rw [AllComments, String.toList_append, splitOn_append_of_notMem flat, innerLines, lines,
    List.modifyHead_cons, List.forall_mem_cons, List.tail_cons, and_iff_right comment]

private theorem innerLines_of_flat {text : String} (flat : '\n' ∉ text.toList) :
    innerLines text = [] := by
  rw [innerLines, splitOn_of_notMem flat, List.tail_cons]

/-- A number is written in digits only. -/
theorem lineFeed_notMem_toString (n : Nat) : '\n' ∉ (toString n).toList := by
  intro member
  rw [Nat.toString_eq_ofList_toDigits, String.toList_ofList] at member
  have digit := Nat.isDigit_of_mem_toDigits (by decide) (by decide) member
  exact absurd digit (by decide)

/-- A number has no second line. -/
theorem innerLines_toString (n : Nat) : innerLines (toString n) = [] :=
  innerLines_of_flat (lineFeed_notMem_toString n)

/-- A header is a comment as far as the path and the native type of its unit leave it one. -/
theorem header_allComments_iff (unit : GeneratedUnit) :
    AllComments (headerOf unit) ↔
      ∀ line ∈ innerLines unit.path ++ innerLines unit.nativeType, IsComment line := by
  have title : AllComments "// Generated by bridgegen. DO NOT EDIT." := by decide
  have mark : AllComments "//" := by decide
  have last : AllComments "" := by decide
  have path : AllComments ("// Type: " ++ unit.path) ↔
      ∀ line ∈ innerLines unit.path, IsComment line :=
    allComments_titled (by decide) (by decide) unit.path
  have type : AllComments ("// Native type: " ++ unit.nativeType) ↔
      ∀ line ∈ innerLines unit.nativeType, IsComment line :=
    allComments_titled (by decide) (by decide) unit.nativeType
  have members : AllComments ("// Native members: " ++ toString unit.members.length) := by
    rw [allComments_titled (by decide) (by decide), innerLines_toString]
    intro line member
    exact absurd member List.not_mem_nil
  rw [headerOf, allComments_join, List.forall_mem_append, ← path, ← type]
  simp only [headerLines, List.forall_mem_cons, title, mark, members, last, true_and,
    List.not_mem_nil, false_implies, implies_true, and_true]

/-- A set that is generated without headers is generated with headers as well: nothing is different
but that every source has its header in front. That header is made of comments and empty lines
exactly when every line is, that begins inside the path or the native type of the unit. -/
theorem header_comment_iff (set : DeclarationSet) (valid : config.isValid = true) :
    ∃ generation, Generation.run (headed config false) set = .ok generation ∧
      Generation.run (headed config true) set = .ok (withHeaders generation) ∧
      ∀ unit ∈ generation.units, (AllComments (headerOf unit) ↔
        ∀ line ∈ innerLines unit.path ++ innerLines unit.nativeType, IsComment line) := by
  have usable : ∀ on, (headed config on).isValid = true := by
    intro on
    exact (isValid_headed config on).trans valid
  refine ⟨_, run_of_valid (usable false) set, ?_, fun unit _ => header_allComments_iff unit⟩
  rw [← ofSet_headed]
  exact run_of_valid (usable true) set

theorem header_comment_camera : Config.isValid {} = true ∧
    ∃ generation, Generation.run (headed {} false) Samples.invalidTypes = .ok generation ∧
      Generation.run (headed {} true) Samples.invalidTypes = .ok (withHeaders generation) ∧
      generation.units.length = 1 ∧ ∀ unit ∈ generation.units, AllComments (headerOf unit) := by
  have valid : Config.isValid {} = true := by decide +kernel
  have plain : (Generation.ofSet (headed {} false) Samples.invalidTypes).units.length = 1 ∧
      ∀ unit ∈ (Generation.ofSet (headed {} false) Samples.invalidTypes).units,
        ∀ line ∈ innerLines unit.path ++ innerLines unit.nativeType, IsComment line := by
    decide +kernel
  obtain ⟨generation, without, ran, comment⟩ := header_comment_iff Samples.invalidTypes valid
  have usable := (isValid_headed {} false).trans valid
  obtain rfl := Except.ok.inj ((run_of_valid usable _).symm.trans without)
  exact ⟨valid, _, without, ran, plain.1,
    fun unit member => (comment unit member).mpr (plain.2 unit member)⟩

/-- A path with a line feed is generated like any other. What stands behind the line feed is a line
of its own in the header, and no comment. -/
theorem header_with_code :
    let camera : Container := { path := "engine\nCamera", name := "Camera" }
    let set : DeclarationSet := { declarations := [.method camera "Render"] }
    Config.isValid {} = true ∧
      ∃ generation, Generation.run (headed {} false) set = .ok generation ∧
        Generation.run (headed {} true) set = .ok (withHeaders generation) ∧
        ∃ unit ∈ generation.units, ¬AllComments (headerOf unit) := by
  intro camera set
  have valid : Config.isValid {} = true := by decide +kernel
  have broken : ∃ unit ∈ (Generation.ofSet (headed {} false) set).units,
      ¬AllComments (headerOf unit) := by decide +kernel
  have usable : ∀ on, (headed {} on).isValid = true := fun on => (isValid_headed {} on).trans valid
  refine ⟨valid, _, run_of_valid (usable false) set, ?_, broken⟩
  rw [← ofSet_headed]
  exact run_of_valid (usable true) set

end NativeThunks.UnitHeader
