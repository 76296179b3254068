import NativeThunks.Proofs.UnitHeader
import NativeThunks.Proofs.WrapperTables

/-! The sections of a unit's text. Behind its header a unit is one module: the slots of all members,
one block with their functions, and the definitions of the wrappers. Every section ends at the level
it begins at, because a thunk closes the blocks that its parameters open, so the text of a unit is
put together from the texts of its sections. -/
namespace NativeThunks.SourceSections
open ContainerOutcomes RenderedLines UnitHeader WrapperTables

variable {config : Config}

/-- The two ways in which a parameter surrounds the native call: with a block that it opens before
and closes behind the call, or with single lines. -/
theorem around_cases (crossing : Crossing) (name runtime : String) :
    (crossing.opensScope = true ∧
      ∃ content, (crossing.beforeCall name runtime).1 = [.opening "\x7b", .text content] ∧
        crossing.afterCall name runtime = [.closing]) ∨
    crossing.opensScope = false ∧
      ∃ before after : List String,
        (crossing.beforeCall name runtime).1 = before.map .text ∧
          crossing.afterCall name runtime = after.map .text := by
  unfold Crossing.beforeCall Crossing.afterCall Crossing.opensScope
  cases crossing.strategy with
  | default =>
    cases crossing.mode with
    | value => exact .inr ⟨rfl, [], [], rfl, rfl⟩
    | ref => exact .inl ⟨rfl, _, rfl, rfl⟩
    | «in» => exact .inl ⟨rfl, _, rfl, rfl⟩
    | out => exact .inl ⟨rfl, _, rfl, rfl⟩
  | boolean =>
    cases crossing.mode with
    | value => exact .inr ⟨rfl, [_], [], rfl, rfl⟩
    | ref => exact .inr ⟨rfl, [_], [_], rfl, rfl⟩
    | «in» => exact .inr ⟨rfl, [_], [], rfl, rfl⟩
    | out => exact .inr ⟨rfl, [_], [_], rfl, rfl⟩
  | stringHandle => exact .inl ⟨rfl, _, rfl, rfl⟩
  | nativeHandleObject nullable =>
    cases nullable with
    | true => exact .inr ⟨rfl, [_], [], rfl, rfl⟩
    | false => exact .inr ⟨rfl, [_], [], rfl, rfl⟩

private theorem balanced_texts (contents : List String) : Balanced (contents.map .text) := by
  induction contents with
  | nil => exact .nil
  | cons content rest ih => exact .cons_text content ih

/-- Whatever stands between the statements for a parameter, they add nothing that is left open. -/
theorem balanced_around (crossing : Crossing) (name runtime : String) {inner : List Line}
    (inside : Balanced inner) :
    Balanced ((crossing.beforeCall name runtime).1 ++ inner ++ crossing.afterCall name runtime) := by
  rcases around_cases crossing name runtime with
    ⟨_, content, before, after⟩ | ⟨_, before, after, beforeLines, afterLines⟩
  · rw [before, after]
    exact .block "\x7b" (.text content :: inner) (.cons_text content inside)
  · rw [beforeLines, afterLines]
    exact .append (.append (balanced_texts before) inside) (balanced_texts after)

/-- The statements before the call are closed in reverse order, so blocks nest. -/
theorem balanced_params (params : List PlannedParameter) (runtime : String) {inner : List Line}
    (inside : Balanced inner) :
    Balanced (params.flatMap (fun parameter =>
        (parameter.crossing.beforeCall parameter.ident runtime).1) ++ inner ++
      params.reverse.flatMap fun parameter =>
        parameter.crossing.afterCall parameter.ident runtime) := by
  induction params with
  | nil => simpa using inside
  | cons parameter rest ih =>
    have outer := balanced_around parameter.crossing parameter.ident runtime ih
    simpa [List.append_assoc] using outer

/-- The call stands inside the blocks of all parameters, the result behind them. -/
theorem balanced_body (plan : MemberPlan) (runtime : String) (written : List WrittenArgument) :
    Balanced (plan.body runtime written) := by
  unfold MemberPlan.body
  simp only [List.append_assoc]
  refine .append (.text _) (.append ?receiver (.append ?declared ?_))
  case receiver =>
    cases plan.symbols.receiver with
    | none => exact .nil
    | some receiver => exact .text _
  case declared =>
    split
    · exact .text _
    · exact .nil
  rw [← List.append_assoc, ← List.append_assoc]
  refine .append (balanced_params plan.params runtime (.text _)) ?_
  split
  · exact .text _
  · exact .nil

/-- The function of a member is one line of documentation and one block. -/
theorem balanced_function (plan : MemberPlan) (runtime : String)
    (written : List WrittenArgument) : Balanced (plan.function runtime written) :=
  .cons_text _ (.block _ _ (balanced_body plan runtime written))

private theorem balanced_slot (plan : MemberPlan) (config : Config) (written : List WrittenArgument) :
    Balanced (plan.slot config written) := .cons_text _ (.text _)

/-- A thunk whose two parts leave no block open. -/
structure BalancedThunk (thunk : Thunk) : Prop where
  slot : Balanced thunk.slot
  function : Balanced thunk.function

theorem ofPlans_balanced (config : Config) (plans : List MemberPlan) :
    ∀ thunk ∈ (ThunkList.ofPlans config plans).thunks, BalancedThunk thunk := by
  induction plans using List.reverseRecOn with
  | nil =>
    intro thunk member
    cases member
  | append_singleton plans plan ih =>
    intro thunk member
    rw [ofPlans_snoc] at member
    rcases List.mem_append.mp member with earlier | last
    · exact ih thunk earlier
    · obtain rfl := List.mem_singleton.mp last
      exact ⟨balanced_slot plan config _, balanced_function plan config.runtimePath _⟩

/-- The lines of the functions, with an empty line between two of them. -/
def functionLines (thunks : List Thunk) : List Line :=
  [Line.blank].intercalate (thunks.map (·.function))

theorem functionLines_cons_cons (thunk next : Thunk) (rest : List Thunk) :
    functionLines (thunk :: next :: rest) =
      thunk.function ++ .blank :: functionLines (next :: rest) := by
  simp [functionLines, List.intercalate_cons_cons]

/-- The text of the slots in a unit. -/
def slotSection (thunks : List Thunk) : String := render 1 (thunks.flatMap (·.slot))

/-- The text of the functions in a unit. -/
def functionSection (thunks : List Thunk) : String := render 2 (functionLines thunks)

/-- The text of the wrappers in a unit. -/
def wrapperSection (wrappers : List Wrapper) : String :=
  render 1 (wrappers.flatMap Wrapper.definition)

/-- The attributes of every module. -/
def outerAttributes : List Line := [.text "#[doc(hidden)]", .text "#[allow(non_snake_case)]"]

/-- What every module begins with. -/
def moduleAttributes : List Line := [
  .text ("#![allow(non_upper_case_globals, non_camel_case_types, non_snake_case, dead_code, " ++
    "unused_unsafe, clippy::all)]"),
  .blank,
  .text "use super::*;",
  .blank]

/-- What stands in front of the slots. -/
def moduleStart (name : String) : String :=
  render 0 outerAttributes ++ ("mod __" ++ name ++ "_binding \x7b\n") ++
    render 1 moduleAttributes

/-- What stands between the slots and the functions. -/
def implStart (name : String) : String := "\n    impl " ++ name ++ " \x7b\n"

/-- The text of a unit, put together from its header if it has one, its thunks and its wrappers. -/
def assembled (header : Bool) (unit : GeneratedUnit) (thunks : List Thunk) : String :=
  (if header then headerOf unit else "") ++ moduleStart unit.name ++
    slotSection thunks ++ implStart unit.name ++ functionSection thunks ++ "    \x7d\n" ++
    wrapperSection unit.wrappers ++ "\x7d\n"

theorem balanced_slots {thunks : List Thunk} (each : ∀ thunk ∈ thunks, BalancedThunk thunk) :
    Balanced (thunks.flatMap (·.slot)) :=
  .flatMap fun thunk member => (each thunk member).slot

theorem balanced_functions {thunks : List Thunk}
    (each : ∀ thunk ∈ thunks, BalancedThunk thunk) : Balanced (functionLines thunks) := by
  induction thunks with
  | nil => exact .nil
  | cons thunk rest ih =>
    have first := (each thunk List.mem_cons_self).function
    have later := ih fun other member => each other (List.mem_cons_of_mem _ member)
    cases rest with
    | nil => simpa [functionLines] using first
    | cons next rest =>
      rw [functionLines_cons_cons]
      exact .append first (.cons_blank later)

/-- A wrapper is a structure and an implementation with one function. -/
theorem balanced_definition (wrapper : Wrapper) : Balanced wrapper.definition := by
  have block (head content : String) : Balanced [.opening head, .text content, .closing] :=
    .block head [.text content] (.text content)
  have impl (head mark inner value : String) :
      Balanced [.opening head, .text mark, .opening inner, .text value, .closing, .closing] :=
    .block head [.text mark, .opening inner, .text value, .closing]
      (.cons_text mark (block inner value))
  exact .cons_blank (.cons_text _ (.cons_text _ (.cons_text _
    (.append (block _ _) (.cons_blank (impl _ _ _ _))))))

/-- The block of functions in a unit. -/
def implLines (name : String) (thunks : List Thunk) : List Line :=
  .opening ("impl " ++ name ++ " \x7b") :: (functionLines thunks ++ [.closing])

/-- The lines inside the module of a unit. -/
def moduleLines (list : ThunkList) (name : String) : List Line :=
  moduleAttributes ++
    (list.slots ++ .blank :: (implLines name list.thunks ++ list.wrappers.definitions))

/-- A unit is two attributes and one block. -/
theorem module_eq (list : ThunkList) (container : Container) :
    list.module container = outerAttributes ++
      .opening ("mod " ++ container.moduleName ++ " \x7b") ::
        (moduleLines list container.name ++ [.closing]) := by
  simp [ThunkList.module, unitPrelude, outerAttributes, moduleLines, moduleAttributes, implLines,
    functionLines, ThunkList.functions]

theorem balanced_outerAttributes : Balanced outerAttributes := .cons_text _ (.text _)

private theorem balanced_moduleAttributes : Balanced moduleAttributes :=
  .cons_text _ (.cons_blank (.cons_text _ .blank))

section
variable {list : ThunkList} (each : ∀ thunk ∈ list.thunks, BalancedThunk thunk)
include each

theorem balanced_moduleLines (name : String) : Balanced (moduleLines list name) := by
  have impl : Balanced (implLines name list.thunks) := .block _ _ (balanced_functions each)
  have definitions : Balanced list.wrappers.definitions :=
    .flatMap fun wrapper _ => balanced_definition wrapper
  exact .append balanced_moduleAttributes
    (.append (balanced_slots each) (.cons_blank (.append impl definitions)))

/-- Inside its module, a unit is its three sections with fixed texts between them. -/
theorem render_moduleLines (name : String) :
    render 1 (moduleLines list name) =
      render 1 moduleAttributes ++ slotSection list.thunks ++ implStart name ++
        functionSection list.thunks ++ "    \x7d\n" ++ wrapperSection list.wrappers.entries := by
  have functions := balanced_functions each
  have impl : Balanced (implLines name list.thunks) := .block _ _ functions
  have block : render 1 (implLines name list.thunks) =
      "    impl " ++ name ++ " \x7b\n" ++ functionSection list.thunks ++ "    \x7d\n" := by
    rw [implLines, render_block 1 _ functions]
    apply String.toList_inj.mp
    simp [indentation, functionSection]
  rw [moduleLines, render_append balanced_moduleAttributes, ThunkList.slots,
    render_append (balanced_slots each), render_blank, render_append impl, block]
  apply String.toList_inj.mp
  simp [slotSection, implStart, wrapperSection, WrapperTable.definitions]

private theorem render_module (container : Container) :
    render 0 (list.module container) = moduleStart container.name ++ slotSection list.thunks ++
      implStart container.name ++ functionSection list.thunks ++ "    \x7d\n" ++
      wrapperSection list.wrappers.entries ++ "\x7d\n" := by
  have inside := balanced_moduleLines each container.name
  have block : render 0 (.opening ("mod " ++ container.moduleName ++ " \x7b") ::
      (moduleLines list container.name ++ [.closing])) =
      ("mod __" ++ container.name ++ "_binding \x7b\n") ++
        render 1 (moduleLines list container.name) ++ "\x7d\n" := by
    rw [render_block 0 _ inside]
    apply String.toList_inj.mp
    simp [indentation, Container.moduleName]
  rw [module_eq, render_append balanced_outerAttributes, block, render_moduleLines each,
    moduleStart]
  simp only [String.append_assoc]

end

/-- The text of a unit is put together from the thunks of its plans. -/
theorem unit_source {container : Container} {plans : List MemberPlan} {unit : GeneratedUnit}
    (made : unitOfPlans? config container plans = some unit) :
    unit.source = assembled config.emitHeader unit (ThunkList.ofPlans config plans).thunks := by
  have form := unitOfPlans_some made
  obtain ⟨wrappers, source⟩ := unitOfPlans_thunks made
  have module := render_module (ofPlans_balanced config plans) container
  rw [source, assembled, wrappers, form.name]
  cases header : config.emitHeader with
  | false => simp [ThunkList.source, ThunkList.lines, header, module, String.append_assoc]
  | true =>
    have members : (ThunkList.ofPlans config plans).size = unit.members.length := by
      rw [size_ofPlans, form.members, List.length_map]
    have balanced : Balanced (unitHeader container unit.nativeType unit.members.length) :=
      balanced_unitHeader container unit.nativeType unit.members.length
    rw [ThunkList.source, ThunkList.lines, if_pos header, members, ← form.nativeType,
      render_append balanced, render_unitHeader container unit form.path, module]
    simp [String.append_assoc]

/-- The arguments in the text of a unit are written as its wrappers say. -/
theorem unit_thunks {container : Container} {plans : List MemberPlan} {unit : GeneratedUnit}
    (made : unitOfPlans? config container plans = some unit) :
    List.Forall₂ (ThunkOf config unit.wrappers) plans (ThunkList.ofPlans config plans).thunks := by
  rw [(unitOfPlans_thunks made).1]
  exact ofPlans_thunks config plans (Extends.refl _)

end NativeThunks.SourceSections
