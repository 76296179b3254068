import NativeThunks.Proofs.SourceSections
import NativeThunks.UnitWriter

/-! Several writers write a unit as one would. Whatever text is taken from another writer leaves no block
open and was written for the level at which it is taken, so the three writers of a unit come to the same
as one that puts all lines of the unit one after the other. -/
namespace NativeThunks.UnitWriters
open RenderedLines SourceSections UnitHeader WrapperTables

variable {config : Config} {lines : List Line}

/-- The text of balanced lines may be written elsewhere, as long as it is written for the same level. -/
theorem append_text (balanced : Balanced lines) (writer : Writer) :
    writer.append ((Writer.ofLevel writer.level).putAll lines).text = writer.putAll lines := by
  have level := balanced.level writer
  have text := putAll_text writer lines
  rw [Writer.append, ← render, ← text]
  exact congrArg (Writer.mk · _) level.symm

theorem function_eq (plan : MemberPlan) (runtime : String) (written : List WrittenArgument) :
    plan.function runtime written = .text plan.docLine :: .opening plan.headLine ::
      (plan.body runtime written ++ [.closing]) := rfl

/-- One more function stands behind the others, and behind an empty line if there are others. -/
theorem functionLines_snoc (thunks : List Thunk) (thunk : Thunk) :
    functionLines (thunks ++ [thunk]) = functionLines thunks ++
      ((if thunks.length = 0 then [] else [Line.blank]) ++ thunk.function) := by
  induction thunks with
  | nil => simp [functionLines]
  | cons first rest ih =>
    cases rest with
    | nil => simp [functionLines, List.intercalate_cons_cons]
    | cons next rest =>
      rw [List.cons_append, List.cons_append, functionLines_cons_cons, ← List.cons_append, ih,
        functionLines_cons_cons]
      simp

/-- Two writers that have put the lines of thunks, and their wrappers. -/
structure Holds (unit : UnitWriter) (list : ThunkList) : Prop where
  slots : unit.slots = (Writer.ofLevel 1).putAll list.slots
  functions : unit.functions = (Writer.ofLevel 2).putAll list.functions
  wrappers : unit.wrappers = list.wrappers
  size : unit.size = list.size

/-- A function is written as its lines, though its body has a writer of its own. -/
theorem function_written (writer : Writer) (plan : MemberPlan) (runtime : String)
    (written : List WrittenArgument) :
    (((writer.line plan.docLine).openBlock plan.headLine).append
      ((Writer.ofLevel (writer.level + 1)).putAll (plan.body runtime written)).text).closeBlock =
      writer.putAll (plan.function runtime written) := by
  have taken := append_text (balanced_body plan runtime written)
    ((writer.line plan.docLine).openBlock plan.headLine)
  have lines : writer.putAll (plan.function runtime written) =
      (((writer.line plan.docLine).openBlock plan.headLine).putAll
        (plan.body runtime written)).closeBlock := by
    rw [function_eq]
    exact putAll_append _ _ _
  rw [lines, ← taken]
  rfl

/-- The functions of a unit take one more, behind an empty line unless it is the first. -/
theorem functions_add (unit : UnitWriter) (plan : MemberPlan) :
    (unit.add config plan).functions =
      unit.functions.putAll ((if unit.size = 0 then [] else [Line.blank]) ++
        plan.function config.runtimePath
          (unit.wrappers.writeAll config (plan.nativeArguments config.runtimePath)).1) := by
  rw [putAll_append, ← function_written, UnitWriter.add]
  cases unit.size <;> rfl

theorem Holds.add {unit : UnitWriter} {list : ThunkList} (holds : Holds unit list)
    (plan : MemberPlan) : Holds (unit.add config plan) (list.add config plan) := by
  obtain ⟨slots, functions, wrappers, size⟩ := holds
  constructor
  case slots =>
    simp only [UnitWriter.add, ThunkList.add, Thunk.ofPlan, ThunkList.slots, slots, wrappers,
      List.flatMap_append, List.flatMap_singleton, putAll_append]
  case functions =>
    have more : (list.add config plan).functions = list.functions ++ ((if unit.size = 0 then []
        else [Line.blank]) ++ plan.function config.runtimePath
          (unit.wrappers.writeAll config (plan.nativeArguments config.runtimePath)).1) := by
      rw [size, wrappers]
      exact functionLines_snoc list.thunks _
    simp only [functions_add, more, functions, putAll_append]
  case wrappers => simp only [UnitWriter.add, ThunkList.add, Thunk.ofPlan, wrappers]
  case size => simp [UnitWriter.add, ThunkList.add, ThunkList.size, size]

private theorem holds_ofPlans (config : Config) (plans : List MemberPlan) :
    Holds (.ofPlans config plans) (.ofPlans config plans) := by
  induction plans using List.reverseRecOn with
  | nil => exact ⟨rfl, rfl, rfl, rfl⟩
  | append_singleton plans plan ih =>
    have added : UnitWriter.ofPlans config (plans ++ [plan]) =
        (UnitWriter.ofPlans config plans).add config plan := by simp [UnitWriter.ofPlans]
    rw [added, ofPlans_snoc]
    exact ih.add plan

/-- After every member the two writers are at the levels that they began at. -/
theorem levels_kept (config : Config) (plans : List MemberPlan) :
    (UnitWriter.ofPlans config plans).slots.level = 1 ∧
      (UnitWriter.ofPlans config plans).functions.level = 2 := by
  have holds := holds_ofPlans config plans
  have each := ofPlans_balanced config plans
  rw [holds.slots, holds.functions]
  exact ⟨(balanced_slots each).level _, (balanced_functions each).level _⟩

/-- The lines in front of the module of a unit. -/
def headerLines (config : Config) (container : Container) (nativeType : String) (members : Nat) :
    List Line := if config.emitHeader then unitHeader container nativeType members else []

private theorem balanced_headerLines (config : Config) (container : Container) (nativeType : String)
    (members : Nat) : Balanced (headerLines config container nativeType members) := by
  unfold headerLines
  split
  · exact balanced_unitHeader container nativeType members
  · exact .nil

theorem balanced_lines (config : Config) (plans : List MemberPlan) (container : Container)
    (nativeType : String) :
    Balanced ((ThunkList.ofPlans config plans).lines config container nativeType) := by
  refine .append (balanced_headerLines config container nativeType _) ?_
  rw [module_eq]
  exact .append balanced_outerAttributes
    (.block _ _ (balanced_moduleLines (ofPlans_balanced config plans) container.name))

/-- A unit that is finished holds the lines of its thunks, as if one writer had put them all. -/
theorem finish_eq (config : Config) (plans : List MemberPlan) (container : Container)
    (nativeType : String) :
    (UnitWriter.ofPlans config plans).finish config container nativeType =
      (Writer.ofLevel 0).putAll
        ((ThunkList.ofPlans config plans).lines config container nativeType) := by
  obtain ⟨slots, functions, wrappers, size⟩ := holds_ofPlans config plans
  have each := ofPlans_balanced config plans
  generalize ThunkList.ofPlans config plans = list at *
  let front := ((Writer.ofLevel 0).putAll
    (headerLines config container nativeType list.size)).putAll (unitPrelude container)
  have frontLevel : front.level = 1 := congrArg (· + 1)
    ((balanced_headerLines config container nativeType list.size).level (Writer.ofLevel 0))
  have slotsTaken : front.append ((Writer.ofLevel 1).putAll list.slots).text =
      front.putAll list.slots := frontLevel ▸ append_text (balanced_slots each) front
  let inner := (front.putAll list.slots).blank.openBlock ("impl " ++ container.name ++ " \x7b")
  have innerLevel : inner.level = 2 := congrArg (· + 1)
    (((balanced_slots each).level front).trans frontLevel)
  have functionsTaken : inner.append ((Writer.ofLevel 2).putAll list.functions).text =
      inner.putAll list.functions := innerLevel ▸ append_text (balanced_functions each) inner
  calc (UnitWriter.ofPlans config plans).finish config container nativeType
      = ((((front.append ((Writer.ofLevel 1).putAll list.slots).text).blank.openBlock
          ("impl " ++ container.name ++ " \x7b")).append
          ((Writer.ofLevel 2).putAll list.functions).text).closeBlock.putAll
          list.wrappers.definitions).closeBlock := by
        rw [UnitWriter.finish, slots, functions, wrappers, size]
        rfl
    _ = ((inner.putAll list.functions).closeBlock.putAll list.wrappers.definitions).closeBlock := by
        rw [slotsTaken, functionsTaken]
    _ = (Writer.ofLevel 0).putAll (list.lines config container nativeType) := by
        simp only [ThunkList.lines, ThunkList.module, putAll_append]
        rfl

end NativeThunks.UnitWriters
