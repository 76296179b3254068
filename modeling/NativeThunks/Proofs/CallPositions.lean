import NativeThunks.Proofs.PlanStages
import NativeThunks.Proofs.ScalarWrapping
import NativeThunks.Samples

/-! The positions of a native call. The signature of a slot, the native call and the signature of the
function are three lists about the same parameters. The first two are the two halves of one list, which
follows from the declaration and from the wrappers that the member leaves behind, so they agree at
every position; the third follows from the declaration alone. -/
namespace NativeThunks.CallPositions
open PlanStages ScalarWrapping WrapperTables

variable {config : Config} {decl : Declaration} {plan : MemberPlan} {table final : WrapperTable}

/-- The name that the pointer of the object has in a function. -/
def receiverOf (config : Config) (decl : Declaration) : String :=
  decl.thisName.getD config.receiverName

/-- What a parameter is passed as: its native type, and the expression that its conversion leaves. -/
def passed (config : Config) (parameter : Parameter) : NativeArgument :=
  let crossing := Crossing.ofParameter parameter
  ⟨crossing.nativeType,
    (crossing.beforeCall (Naming.escapeReserved parameter.name) config.runtimePath).2⟩

/-- What the native function takes: an opaque pointer to the object, unless the member is static, and
then the parameters in their order. -/
def taken (config : Config) (decl : Declaration) : List NativeArgument :=
  (if decl.isStatic then [] else [⟨⟨opaquePointer, true⟩, receiverOf config decl⟩]) ++
    decl.params.map (passed config)

/-- What the generated function takes: the object, unless the member is static, and then the parameters
in their order. -/
def declared (decl : Declaration) : List String :=
  (if decl.isStatic then [] else ["&self"]) ++ decl.params.map fun parameter =>
    Naming.escapeReserved parameter.name ++ ": " ++ (Crossing.ofParameter parameter).managedType

/-- The type of a result with its arrow; there is none without a value. -/
def resultArrow (decl : Declaration) (type : String) : String :=
  if decl.ret = .unit then "" else " -> " ++ type

/-- The line that declares a slot, with the types of the function pointer in it. -/
def slotDeclaration (config : Config) (decl : Declaration) (types : List String) : String :=
  "static " ++ slotName decl.entryPoint ++ ": " ++ config.runtimePath ++
    "::NativeSlot<unsafe extern \"" ++ config.convention.text ++ "\" fn(" ++
    ", ".intercalate types ++ ")" ++
    resultArrow decl (Crossing.ofReturn decl.ret).nativeType.text ++ "> = " ++
    config.runtimePath ++ "::NativeSlot::new();"

/-- The first line of a function. -/
def functionHead (decl : Declaration) (parameters : List String) : String :=
  decl.effectiveVisibility.insideUnit ++ " fn " ++ decl.functionName ++ "(" ++
    ", ".intercalate parameters ++ ")" ++
    resultArrow decl (Crossing.ofReturn decl.ret).managedReturnType ++ " \x7b"

/-- An argument as it is written beside the wrappers of a table: a scalar goes through the wrapper of
its type if scalars are wrapped, and anything else is passed as it is. -/
def carried (config : Config) (table : WrapperTable) (argument : NativeArgument) : WrittenArgument :=
  if config.wrapScalars && argument.type.scalar then
    ⟨(table.intern argument.type.text).1,
      (table.intern argument.type.text).1 ++ "::from(" ++ argument.expression ++ ")"⟩
  else bare argument

/-- A type that has a wrapper keeps it, however much the table grows. -/
theorem intern_kept {type : String} (grown : Extends (table.intern type).2 final) :
    final.intern type = ((table.intern type).1, final) := by
  obtain ⟨index, name, listed, _⟩ := intern_cases table type
  obtain ⟨more, types⟩ := grown
  have kept : final.types[index]? = some type := by
    rw [← types, List.getElem?_append_left (List.getElem?_eq_some_iff.mp listed).1, listed]
  rw [intern_listed kept, name]

/-- The wrapper of a type is defined in every table that knows the type. -/
theorem intern_entry {type : String} (known : (table.intern type).2 = table) :
    ⟨(table.intern type).1, type⟩ ∈ table.entries := by
  obtain ⟨index, name, listed, _⟩ := intern_cases table type
  rw [known] at listed
  exact name ▸ entry_mem listed

private theorem write_carried (argument : NativeArgument)
    (grown : Extends (table.write config argument).2 final) :
    (table.write config argument).1 = carried config final argument := by
  unfold WrapperTable.write at grown ⊢
  unfold carried
  split
  · rename_i wrapped
    rw [if_pos wrapped] at grown
    rw [intern_kept grown]
  · rfl

/-- A list of arguments is written argument by argument, beside the table that all of them leave. -/
theorem writeAll_carried {arguments : List NativeArgument}
    (grown : Extends (table.writeAll config arguments).2 final) :
    (table.writeAll config arguments).1 = arguments.map (carried config final) := by
  induction arguments generalizing table with
  | nil => rfl
  | cons argument rest ih =>
    have later := writeAll_extends config (table.write config argument).2 rest
    have head := write_carried argument (later.trans grown)
    have tail : ((table.write config argument).2.writeAll config rest).1 =
        rest.map (carried config final) := ih grown
    rw [List.map_cons, ← head, ← tail]
    rfl

/-- What is written through a wrapper is known to the table that is left. -/
theorem writeAll_known {arguments : List NativeArgument} {argument : NativeArgument}
    (grown : Extends (table.writeAll config arguments).2 final) (member : argument ∈ arguments)
    (wrapped : (config.wrapScalars && argument.type.scalar) = true) :
    (final.intern argument.type.text).2 = final := by
  induction arguments generalizing table with
  | nil => cases member
  | cons first rest ih =>
    rcases List.mem_cons.mp member with rfl | member
    · have later := (writeAll_extends config (table.write config argument).2 rest).trans grown
      unfold WrapperTable.write at later
      rw [if_pos wrapped] at later
      rw [intern_kept later]
    · exact ih grown member

private theorem nativeArguments_eq (config : Config) (decl : Declaration) :
    (MemberPlan.ofDeclaration decl config).nativeArguments config.runtimePath =
      taken config decl := by
  have params : (MemberPlan.ofDeclaration decl config).params.map (fun parameter =>
      (⟨parameter.crossing.nativeType,
        (parameter.crossing.beforeCall parameter.ident config.runtimePath).2⟩ : NativeArgument)) =
      decl.params.map (passed config) := List.map_map
  unfold MemberPlan.nativeArguments taken
  rw [params]
  cases bound : decl.isStatic <;>
    simp [MemberPlan.ofDeclaration, MemberSymbols.ofDeclaration, Declaration.receiverName,
      bound, receiverOf]

private theorem signature_eq (config : Config) (decl : Declaration) :
    (MemberPlan.ofDeclaration decl config).signature = declared decl := by
  have params : (MemberPlan.ofDeclaration decl config).params.map (fun parameter =>
      parameter.ident ++ ": " ++ parameter.crossing.managedType) =
      decl.params.map (fun parameter => Naming.escapeReserved parameter.name ++ ": " ++
        (Crossing.ofParameter parameter).managedType) := List.map_map
  unfold MemberPlan.signature declared
  rw [params]
  cases bound : decl.isStatic <;>
    simp [MemberPlan.ofDeclaration, MemberSymbols.ofDeclaration, Declaration.receiverName, bound]

private theorem returnSuffix_eq (config : Config) (decl : Declaration) (type : String) :
    (MemberPlan.ofDeclaration decl config).returnSuffix type = resultArrow decl type := by
  unfold MemberPlan.returnSuffix MemberPlan.hasResult resultArrow
  cases ret : decl.ret <;> simp [MemberPlan.ofDeclaration, Crossing.ofReturn, TypeRef.isUnit, ret]

/-- A signature without a fault is within the limit. -/
theorem arity_le (silent : decl.signatureFaults = []) : decl.nativeArity ≤ maxNativeArity := by
  have reasons := List.map_eq_nil_iff.mp silent
  simp only [List.append_eq_nil_iff] at reasons
  by_cases excess : maxNativeArity < decl.nativeArity
  · have arity := reasons.1.2
    simp [Declaration.arityReasons, excess] at arity
  · omega

/-- There is an arrow exactly where there is a value. -/
theorem resultArrow_eq_empty_iff (type : String) : resultArrow decl type = "" ↔ decl.ret = .unit := by
  unfold resultArrow
  split
  · simp [*]
  · simp [*, ← String.toList_inj]

/-- A thunk whose slot has the types of some positions and whose native call has their expressions,
and whose function declares what the member asks for. -/
structure Agree (config : Config) (decl : Declaration) (plan : MemberPlan) (thunk : Thunk)
    (positions : List WrittenArgument) : Prop where
  slot : thunk.slot =
    [.text "#[doc(hidden)]", .text (slotDeclaration config decl (positions.map (·.type)))]
  function : ∃ before after, thunk.function =
    .text ("/// Calls the native entry point `" ++ decl.entryPoint ++ "`.") ::
      .opening (functionHead decl (declared decl)) ::
        before ++ .text (callLine plan (positions.map (·.expression))) :: after

private theorem slot_eq (config : Config) (decl : Declaration) (written : List WrittenArgument) :
    (MemberPlan.ofDeclaration decl config).slot config written =
      [.text "#[doc(hidden)]", .text (slotDeclaration config decl (written.map (·.type)))] := by
  rw [MemberPlan.slot, returnSuffix_eq]
  rfl

/-- The native call is one line of the body, and the arguments occur in no other. -/
theorem body_around (plan : MemberPlan) (runtime : String) :
    ∃ before after : List Line, ∀ written, plan.body runtime written =
      before ++ .text (callLine plan (written.map (·.expression))) :: after := by
  have regroup (start : List Line) (call : Line) (close result : List Line) :
      start ++ [call] ++ close ++ result = start ++ call :: (close ++ result) := by simp
  exact ⟨_, _, fun written => regroup _ _ _ _⟩

theorem function_eq (config : Config) (decl : Declaration) (written : List WrittenArgument) :
    (MemberPlan.ofDeclaration decl config).function config.runtimePath written =
      .text ("/// Calls the native entry point `" ++ decl.entryPoint ++ "`.") ::
        .opening (functionHead decl (declared decl)) ::
          ((MemberPlan.ofDeclaration decl config).body config.runtimePath written ++
            [.closing]) := by
  have head : (MemberPlan.ofDeclaration decl config).headLine =
      functionHead decl (declared decl) := by
    rw [MemberPlan.headLine, signature_eq, returnSuffix_eq]
    rfl
  rw [MemberPlan.function, head]
  rfl

/-- The thunk of a planned member, written beside any table, has one list of positions: the types in
its slot and the expressions in its native call are the two halves of that list. The positions are
what the declaration asks for, each written beside the table that is left; that table has all
wrappers of the given one and a wrapper for every scalar. -/
theorem slot_and_call_agree (planned : decl.plan config = .ok plan) (table : WrapperTable) :
    ∃ thunk final, Thunk.ofPlan config table plan = (thunk, final) ∧
      Agree config decl plan thunk ((taken config decl).map (carried config final)) ∧
      (taken config decl).length = decl.params.length + (if decl.isStatic then 0 else 1) ∧
      (taken config decl).length ≤ maxNativeArity ∧
      table.entries <+: final.entries ∧
      (∀ argument ∈ taken config decl, (config.wrapScalars && argument.type.scalar) = true →
        ⟨(carried config final argument).type, argument.type.text⟩ ∈ final.entries) ∧
      ∀ type, resultArrow decl type = "" ↔ decl.ret = .unit := by
  obtain ⟨passed, rfl⟩ := plan_ok planned
  obtain ⟨before, after, around⟩ :=
    body_around (.ofDeclaration decl config) config.runtimePath
  have count : (taken config decl).length =
      decl.params.length + (if decl.isStatic then 0 else 1) := by
    cases bound : decl.isStatic <;> simp [taken, bound]
  refine ⟨_, _, rfl, ⟨?slot, ?function⟩, count, count ▸ arity_le passed.signature, ?kept, ?wrappers,
    resultArrow_eq_empty_iff⟩
  all_goals simp only [nativeArguments_eq]
  case slot => rw [slot_eq, writeAll_carried (Extends.refl _)]
  case function =>
    refine ⟨before, after ++ [.closing], ?_⟩
    rw [function_eq, around, writeAll_carried (Extends.refl _), List.append_assoc]
    rfl
  case kept => exact (writeAll_extends config table _).entries
  case wrappers =>
    intro argument member wrapped
    have known := writeAll_known (Extends.refl (table.writeAll config _).2) member wrapped
    rw [carried, if_pos wrapped]
    exact intern_entry known

/-- Beside a table with a wrapper for `f32`, an object, a structure and an `f32` are three positions:
the object gets the next wrapper, the structure none, and the `f32` the one that it has. -/
theorem slot_and_call_agree_resize :
    let resize := { Declaration.method Samples.camera "Resize" with
      params := [{ name := "viewport", type := .named "Viewport" },
        { name := "scale", type := .primitive .f32 }]
      ret := .bool }
    let plan := MemberPlan.ofDeclaration resize {}
    let table := (WrapperTable.intern {} "f32").2
    let final := (table.intern opaquePointer).2
    resize.plan {} = .ok plan ∧
      ∃ thunk, Thunk.ofPlan {} table plan = (thunk, final) ∧
        Agree {} resize plan thunk [⟨"__ParamWrapper1", "__ParamWrapper1::from(__this)"⟩,
          ⟨"Viewport", "viewport"⟩, ⟨"__ParamWrapper0", "__ParamWrapper0::from(scale)"⟩] := by
  intro resize plan table final
  have planned : resize.plan {} = .ok plan := by decide +kernel
  have left : (Thunk.ofPlan {} table plan).2 = final := by decide +kernel
  have positions : (taken {} resize).map (carried {} final) =
      [⟨"__ParamWrapper1", "__ParamWrapper1::from(__this)"⟩, ⟨"Viewport", "viewport"⟩,
        ⟨"__ParamWrapper0", "__ParamWrapper0::from(scale)"⟩] := by decide +kernel
  obtain ⟨thunk, other, made, agree, _⟩ := slot_and_call_agree planned table
  obtain rfl : final = other := by rw [← left, made]
  rw [positions] at agree
  exact ⟨planned, thunk, made, agree⟩

end NativeThunks.CallPositions
