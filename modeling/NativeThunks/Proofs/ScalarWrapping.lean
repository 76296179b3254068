import NativeThunks.Proofs.RenderingOptions
import NativeThunks.Proofs.SourceSections

/-! Scalars in wrappers and scalars as they are. The two modes of one configuration judge alike, so
their units have the same members, and the thunks of a member can be held against each other. They
differ in the line of the slot that has the signature and in the line of the function that has the
call; there, position by position, a scalar goes through a wrapper of the unit in the one mode, and
everything else is the same in both. -/
namespace NativeThunks.ScalarWrapping
open ContainerOutcomes RenderingOptions SourceSections WrapperTables

variable {config : Config} {set : DeclarationSet} {wrappers : List Wrapper} {plan : MemberPlan}

/-- The configuration with wrappers for scalars switched on or off. -/
def wrapping (config : Config) (on : Bool) : Config := { config with wrapScalars := on }

private theorem isValid_wrapping (config : Config) (on : Bool) :
    (wrapping config on).isValid = config.isValid := rfl

/-- The line of a slot with the signature of the native function. -/
def slotLine (config : Config) (plan : MemberPlan) (types : List String) : String :=
  "static " ++ plan.symbols.slot ++ ": " ++ config.runtimePath ++
    "::NativeSlot<unsafe extern \"" ++ config.convention.text ++ "\" fn(" ++
    ", ".intercalate types ++ ")" ++ plan.returnSuffix plan.ret.nativeType.text ++ "> = " ++
    config.runtimePath ++ "::NativeSlot::new();"

/-- The line of a function with the native call. -/
def callLine (plan : MemberPlan) (expressions : List String) : String :=
  (if plan.hasResult then if plan.isScoped then "__result = " else "let __result = " else "") ++
    ("unsafe \x7b __native(" ++ ", ".intercalate expressions ++ ") \x7d") ++ ";"

/-- Lines in which one text was put in the place of another. -/
inductive Replaced (old new : String) : List Line → List Line → Prop where
  | between (before after : List Line) :
      Replaced old new (before ++ .text old :: after) (before ++ .text new :: after)

private theorem slot_replaced (config : Config) (plan : MemberPlan) (old new : List WrittenArgument) :
    Replaced (slotLine config plan (old.map (·.type))) (slotLine config plan (new.map (·.type)))
      (plan.slot config old) (plan.slot config new) :=
  .between [.text "#[doc(hidden)]"] []

/-- The statements around the call do not depend on how the arguments are written: these occur in the
call alone. -/
theorem function_around (plan : MemberPlan) (runtime : String) :
    ∃ before after : List Line, ∀ written, plan.function runtime written =
      before ++ .text (callLine plan (written.map (·.expression))) :: after := by
  have regroup (head start : List Line) (call : Line) (close result : List Line) :
      head ++ (start ++ [call] ++ close ++ result) ++ [.closing] =
        (head ++ start) ++ call :: (close ++ result ++ [.closing]) := by simp
  exact ⟨_, _, fun written => regroup _ _ _ _ _⟩

private theorem function_replaced (plan : MemberPlan) (runtime : String)
    (old new : List WrittenArgument) :
    Replaced (callLine plan (old.map (·.expression))) (callLine plan (new.map (·.expression)))
      (plan.function runtime old) (plan.function runtime new) := by
  obtain ⟨before, after, around⟩ := function_around plan runtime
  rw [around old, around new]
  exact .between before after

/-- The thunk of a member in both modes. Position by position the arguments are written as `Wraps`
says, and nothing else is different. -/
inductive Rewrapped (config : Config) (wrappers : List Wrapper) (plan : MemberPlan) :
    Thunk × Thunk → Prop where
  | between (wrapped plain : Thunk) (written direct : List WrittenArgument)
      (positions : List.Forall₂ (Wraps wrappers) (plan.nativeArguments config.runtimePath) written)
      (bares : direct = (plan.nativeArguments config.runtimePath).map bare)
      (slots : Replaced (slotLine config plan (direct.map (·.type)))
        (slotLine config plan (written.map (·.type))) plain.slot wrapped.slot)
      (functions : Replaced (callLine plan (direct.map (·.expression)))
        (callLine plan (written.map (·.expression))) plain.function wrapped.function) :
      Rewrapped config wrappers plan (wrapped, plain)

private theorem thunks_rewrapped {wrapped plain : Thunk}
    (wrappedOf : ThunkOf (wrapping config true) wrappers plan wrapped)
    (plainOf : ThunkOf (wrapping config false) [] plan plain) :
    Rewrapped config wrappers plan (wrapped, plain) := by
  obtain ⟨written, writes, rfl⟩ := wrappedOf
  obtain ⟨direct, bares, rfl⟩ := plainOf
  have same : List.Forall₂ (· = ·) ((plan.nativeArguments config.runtimePath).map bare) direct :=
    List.forall₂_map_left_iff.mpr (bares.imp fun _ _ direct => Eq.symm direct)
  rw [List.forall₂_eq_eq_eq] at same
  exact .between _ _ written direct writes same.symm
    (slot_replaced config plan direct written)
    (function_replaced plan config.runtimePath direct written)

private theorem pairs_rewrapped {plans : List MemberPlan} {wrapped plain : List Thunk}
    (wrappedOf : List.Forall₂ (ThunkOf (wrapping config true) wrappers) plans wrapped)
    (plainOf : List.Forall₂ (ThunkOf (wrapping config false) []) plans plain) :
    ∃ pairs : List (Thunk × Thunk), pairs.map (·.1) = wrapped ∧ pairs.map (·.2) = plain ∧
      List.Forall₂ (Rewrapped config wrappers) plans pairs := by
  induction wrappedOf generalizing plain with
  | nil =>
    cases plainOf
    exact ⟨[], rfl, rfl, .nil⟩
  | cons wrappedHead _ ih =>
    cases plainOf with
    | cons plainHead plainTail =>
      obtain ⟨pairs, rfl, rfl, rewrapped⟩ := ih plainTail
      exact ⟨_ :: pairs, rfl, rfl, .cons (thunks_rewrapped wrappedHead plainHead) rewrapped⟩

/-- Two units of one container, with wrappers and without. They have the same members, whose thunks
differ as `Rewrapped` says, and both texts are put together from these thunks in the same way. -/
structure SameUnwrapped (config : Config) (set : DeclarationSet) (wrapped plain : GeneratedUnit) :
    Prop where
  path : wrapped.path = plain.path
  name : wrapped.name = plain.name
  nativeType : wrapped.nativeType = plain.nativeType
  fileName : wrapped.fileName = plain.fileName
  members : wrapped.members = plain.members
  unwrapped : plain.wrappers = []
  planned : wrapped.members =
    (Selection.ofMembers config (set.membersOf wrapped.path)).plans.map .ofPlan
  thunks : ∃ pairs : List (Thunk × Thunk),
    List.Forall₂ (Rewrapped config wrapped.wrappers)
      (Selection.ofMembers config (set.membersOf wrapped.path)).plans pairs ∧
    wrapped.source = assembled config.emitHeader wrapped (pairs.map (·.1)) ∧
    plain.source = assembled config.emitHeader plain (pairs.map (·.2))

private theorem counterparts_unwrapped {wrapped plain : GeneratedUnit}
    (both : Counterparts (wrapping config true) (wrapping config false) set wrapped plain) :
    SameUnwrapped config set wrapped plain := by
  have same := both.sameMembers
  obtain ⟨path, speaker, _, _, head, wrappedMade, plainMade⟩ := both
  have unit := unitOfPlans_some wrappedMade
  have named : wrapped.path = path := unit.path.trans (PathOrder.first_mem head).2
  have selected : (Selection.ofMembers (wrapping config true) (set.membersOf path)).plans =
      (Selection.ofMembers config (set.membersOf wrapped.path)).plans := by
    rw [named]
    rfl
  have unwrapped : plain.wrappers = [] := by
    rw [(unitOfPlans_thunks plainMade).1, ofPlans_wrappers]
    rfl
  have wrappedOf := unit_thunks wrappedMade
  have plainOf := unit_thunks plainMade
  rw [unwrapped] at plainOf
  obtain ⟨pairs, wrappedThunks, plainThunks, rewrapped⟩ := pairs_rewrapped wrappedOf plainOf
  have wrappedText := unit_source wrappedMade
  have plainText := unit_source plainMade
  have planned := unit.members
  rw [← wrappedThunks] at wrappedText
  rw [← plainThunks] at plainText
  rw [selected] at planned rewrapped
  exact ⟨same.path, same.name, same.nativeType, same.fileName, same.members, unwrapped, planned,
    pairs, rewrapped, wrappedText, plainText⟩

/-- A usable configuration generates every set with wrappers for scalars and without, with the same
diagnostics and with units that differ in the wrapping alone. -/
theorem wrapping_changes_arguments (set : DeclarationSet) (valid : config.isValid = true) :
    ∃ wrapped plain, Generation.run (wrapping config true) set = .ok wrapped ∧
      Generation.run (wrapping config false) set = .ok plain ∧
      wrapped.diagnostics = plain.diagnostics ∧
      List.Forall₂ (SameUnwrapped config set) wrapped.units plain.units := by
  have usable : ∀ on, (wrapping config on).isValid = true := by
    intro on
    exact (isValid_wrapping config on).trans valid
  have same : SameReceivers (wrapping config true) (wrapping config false) set := fun _ _ => rfl
  obtain ⟨units, diagnostics⟩ := ofSet_counterparts same
  exact ⟨_, _, run_of_valid (usable true) set, run_of_valid (usable false) set, diagnostics.symm,
    units.imp fun _ _ => counterparts_unwrapped⟩

theorem wrapping_changes_arguments_camera : Config.isValid {} = true ∧
    ∃ wrapped plain, Generation.run (wrapping {} true) Samples.mixedLegality = .ok wrapped ∧
      Generation.run (wrapping {} false) Samples.mixedLegality = .ok plain ∧
      wrapped.diagnostics = plain.diagnostics ∧
      List.Forall₂ (SameUnwrapped {} Samples.mixedLegality) wrapped.units plain.units ∧
      wrapped.units.map (·.wrappers.length) = [2] := by
  have valid : Config.isValid {} = true := by decide +kernel
  obtain ⟨wrapped, plain, wrappedRun, plainRun, diagnostics, units⟩ :=
    wrapping_changes_arguments Samples.mixedLegality valid
  have wrappers : (Generation.ofSet (wrapping {} true) Samples.mixedLegality).units.map
      (·.wrappers.length) = [2] := by decide +kernel
  obtain rfl := Except.ok.inj ((run_of_valid valid _).symm.trans wrappedRun)
  exact ⟨valid, _, plain, wrappedRun, plainRun, diagnostics, units, wrappers⟩

end NativeThunks.ScalarWrapping
