import NativeThunks.Proofs.CallPositions

/-! The wrappers of a whole unit. Members are written one after the other beside one table, and the
table that the last of them leaves is told from the native types in use: every distinct one has a
wrapper, numbered in the order of first use. Names that were written while the table was still growing
are those of the final table, and each of them is defined once. -/
namespace NativeThunks.WrapperNumbering
open CallPositions WrapperTables

variable {config : Config} {table final : WrapperTable}

/-- The native types of scalars that a member uses: that of the object, then those of the parameters
in their order. Neither its result nor an aggregate is among them. -/
def scalarTexts (plan : MemberPlan) : List String :=
  (if plan.symbols.receiver.isSome then [opaquePointer] else []) ++
    (plan.params.filter (·.crossing.nativeType.scalar)).map (·.crossing.nativeType.text)

/-- Wrappers for types, numbered from zero. -/
def numbered (types : List String) : List Wrapper :=
  types.mapIdx fun index type => ⟨wrapperName index, type⟩

/-- The thunk of a member, with its arguments written beside a table. -/
def thunkBeside (config : Config) (table : WrapperTable) (plan : MemberPlan) : Thunk :=
  let positions := (plan.nativeArguments config.runtimePath).map (carried config table)
  ⟨plan.slot config positions, plan.function config.runtimePath positions⟩

/-- The arguments of a member that go through a wrapper where scalars are wrapped. -/
def scalarArguments (config : Config) (plan : MemberPlan) : List NativeArgument :=
  (plan.nativeArguments config.runtimePath).filter (·.type.scalar)

/-- The line that begins the definition of a wrapper. -/
def structureHead (name : String) : Line := .opening ("struct " ++ name ++ " \x7b")

private theorem wrapperName_inj {first second : Nat} :
    wrapperName first = wrapperName second ↔ first = second := by
  constructor
  · intro same
    have letters : (wrapperName first).toList = (wrapperName second).toList := by rw [same]
    have digits : Nat.toDigits 10 first = Nat.toDigits 10 second := by
      simpa only [wrapperName, String.toList_append, List.append_cancel_left_eq,
        Nat.toString_eq_ofList_toDigits, String.toList_ofList] using letters
    rw [← Nat.ofDigitChars_ten_toDigits (n := first), digits, Nat.ofDigitChars_ten_toDigits]
  · rintro rfl
    rfl

theorem entries_eq (table : WrapperTable) : table.entries = numbered table.types := by
  apply List.ext_getElem?
  intro index
  rw [entries_getElem?, numbered, List.getElem?_mapIdx]

/-- Distinct types have wrappers with distinct names, and each type has one. -/
theorem intern_name_inj {first second : String}
    (firstKnown : (table.intern first).2 = table) (secondKnown : (table.intern second).2 = table) :
    (table.intern first).1 = (table.intern second).1 ↔ first = second := by
  constructor
  · intro same
    obtain ⟨index, name, listed, _⟩ := intern_cases table first
    obtain ⟨other, otherName, otherListed, _⟩ := intern_cases table second
    rw [firstKnown] at listed
    rw [secondKnown] at otherListed
    obtain rfl := wrapperName_inj.mp (name.symm.trans (same.trans otherName))
    exact Option.some.inj (listed.symm.trans otherListed)
  · rintro rfl
    rfl

private theorem names_nodup (table : WrapperTable) : (table.entries.map (·.name)).Nodup := by
  have names : table.entries.map (·.name) = (List.range table.types.length).map wrapperName := by
    apply List.ext_getElem (by simp [entries_eq, numbered])
    intro index _ _
    simp [entries_eq, numbered]
  rw [names]
  exact List.nodup_range.map fun first second => wrapperName_inj.mp

private theorem intern_known {type : String} (listed : type ∈ table.types) :
    (table.intern type).2 = table := by
  obtain ⟨index, found⟩ := List.getElem?_of_mem listed
  rw [intern_listed found]

/-- A type is added behind the others unless it is among them. -/
theorem intern_types (table : WrapperTable) (type : String) :
    (table.intern type).2.types =
      if type ∈ table.types then table.types else table.types ++ [type] := by
  split
  · rename_i listed
    rw [intern_known listed]
  · rename_i fresh
    exact (intern_fresh fresh).2

/-- The first occurrences in a list that grows at its end. -/
theorem eraseDups_snoc (types : List String) (type : String) :
    (types ++ [type]).eraseDups =
      if type ∈ types then types.eraseDups else types.eraseDups ++ [type] := by
  have one : [type].eraseDups = [type] := rfl
  rw [List.eraseDups_append]
  split <;> simp [List.removeAll, *]

/-- The table after some types has every distinct scalar among them, in the order of first use. -/
theorem internAll_types (types : List NativeType) :
    (internAll {} types).types = ((types.filter (·.scalar)).map (·.text)).eraseDups := by
  induction types using List.reverseRecOn with
  | nil => rfl
  | append_singleton types type ih =>
    rw [internAll_append, List.filter_append, List.map_append]
    cases scalar : type.scalar with
    | false =>
      have last : internAll (internAll {} types) [type] = internAll {} types := by
        simp [internAll, scalar]
      have nothing : ([type].filter (·.scalar)).map (·.text) = [] := by simp [scalar]
      rw [last, ih, nothing, List.append_nil]
    | true =>
      have last : internAll (internAll {} types) [type] =
          ((internAll {} types).intern type.text).2 := by simp [internAll, scalar]
      have one : ([type].filter (·.scalar)).map (·.text) = [type.text] := by simp [scalar]
      rw [last, intern_types, ih, one, eraseDups_snoc]
      simp only [List.mem_eraseDups]

private theorem scalarTexts_eq (plan : MemberPlan) :
    ((nativeTypes plan).filter (·.scalar)).map (·.text) = scalarTexts plan := by
  unfold nativeTypes scalarTexts
  rw [List.filter_append, List.map_append, List.filter_map, List.map_map]
  cases plan.symbols.receiver <;> rfl

/-- The table of a unit has every distinct scalar of its members, in the order of first use. -/
theorem ofPlans_types (wraps : config.wrapScalars = true) (plans : List MemberPlan) :
    (ThunkList.ofPlans config plans).wrappers.types = (plans.flatMap scalarTexts).eraseDups := by
  rw [ofPlans_wrappers, if_pos wraps, internAll_types, List.filter_flatMap, List.map_flatMap]
  simp only [scalarTexts_eq]

/-- The thunks of a unit are written as if every table before the final one had been the final one. -/
theorem ofPlans_thunksBeside (config : Config) (plans : List MemberPlan)
    (grown : Extends (ThunkList.ofPlans config plans).wrappers final) :
    (ThunkList.ofPlans config plans).thunks = plans.map (thunkBeside config final) := by
  induction plans using List.reverseRecOn with
  | nil => rfl
  | append_singleton plans plan ih =>
    rw [ofPlans_snoc] at grown ⊢
    have later := writeAll_extends config (ThunkList.ofPlans config plans).wrappers
      (plan.nativeArguments config.runtimePath)
    have last : (Thunk.ofPlan config (ThunkList.ofPlans config plans).wrappers plan).1 =
        thunkBeside config final plan := by
      rw [thunkBeside, ← writeAll_carried grown]
      rfl
    rw [List.map_append, ← ih (later.trans grown), List.map_singleton, ← last]
    rfl

/-- The structure of a wrapper begins once in its definition, and no other wrapper's does. -/
theorem count_structureHead (wrapper : Wrapper) (name : String) :
    wrapper.definition.count (structureHead name) = if wrapper.name = name then 1 else 0 := by
  have impl : "impl ::core::convert::From<" ++ wrapper.underlying ++ "> for " ++ wrapper.name ++
      " \x7b" ≠ "struct " ++ name ++ " \x7b" := by simp [← String.toList_inj]
  have function : "fn from(data: " ++ wrapper.underlying ++ ") -> Self \x7b" ≠
      "struct " ++ name ++ " \x7b" := by simp [← String.toList_inj]
  simp [Wrapper.definition, structureHead, List.count_cons, impl, function]

private theorem count_definition (wrappers : List Wrapper) (name : String) :
    (wrappers.flatMap Wrapper.definition).count (structureHead name) =
      (wrappers.map (·.name)).count name := by
  induction wrappers with
  | nil => rfl
  | cons wrapper rest ih =>
    rw [List.flatMap_cons, List.count_append, ih, count_structureHead, List.map_cons,
      List.count_cons, Nat.add_comm]
    simp only [beq_iff_eq]

/-- A wrapper of a table is defined once. -/
theorem defined_once {name type : String} (listed : ⟨name, type⟩ ∈ table.entries) :
    table.definitions.count (structureHead name) = 1 := by
  have member : name ∈ table.entries.map (·.name) := List.mem_map_of_mem listed
  rw [WrapperTable.definitions, count_definition]
  exact List.count_eq_one_of_mem (names_nodup table) member

/-- The scalars among the arguments of a unit's members are known to its table. -/
theorem scalar_known (wraps : config.wrapScalars = true) {plans : List MemberPlan}
    {argument : NativeArgument} (used : argument ∈ plans.flatMap (scalarArguments config)) :
    ((ThunkList.ofPlans config plans).wrappers.intern argument.type.text).2 =
      (ThunkList.ofPlans config plans).wrappers := by
  obtain ⟨plan, planned, member⟩ := List.mem_flatMap.mp used
  obtain ⟨member, scalar⟩ := List.mem_filter.mp member
  have typed : argument.type ∈ nativeTypes plan :=
    nativeArguments_types plan config.runtimePath ▸ List.mem_map_of_mem member
  have listed : argument.type.text ∈ (ThunkList.ofPlans config plans).wrappers.types := by
    rw [ofPlans_types wraps, List.mem_eraseDups, List.mem_flatMap]
    refine ⟨plan, planned, ?_⟩
    rw [← scalarTexts_eq]
    exact List.mem_map_of_mem (List.mem_filter.mpr ⟨typed, scalar⟩)
  exact intern_known listed

/-- Members that are written into one unit with wrappers for scalars have one table: it has every
distinct scalar type of their objects and parameters once, in the order of first use, numbered from
zero. All their thunks are written beside that table; two scalars of any two of them have the same
wrapper exactly when they have the same native type, and the wrapper is defined once. -/
theorem wrappers_numbered (wraps : config.wrapScalars = true) (plans : List MemberPlan) :
    let list := ThunkList.ofPlans config plans
    list.wrappers.entries = numbered (plans.flatMap scalarTexts).eraseDups ∧
      list.thunks = plans.map (thunkBeside config list.wrappers) ∧
      ∀ used ∈ plans.flatMap (scalarArguments config),
        let name := (carried config list.wrappers used).type
        ⟨name, used.type.text⟩ ∈ list.wrappers.entries ∧
          list.wrappers.definitions.count (structureHead name) = 1 ∧
          ∀ other ∈ plans.flatMap (scalarArguments config),
            name = (carried config list.wrappers other).type ↔
              used.type.text = other.type.text := by
  intro list
  have through {argument : NativeArgument}
      (used : argument ∈ plans.flatMap (scalarArguments config)) :
      (carried config list.wrappers argument).type =
        (list.wrappers.intern argument.type.text).1 := by
    obtain ⟨plan, _, member⟩ := List.mem_flatMap.mp used
    have scalar := (List.mem_filter.mp member).2
    rw [carried, if_pos (by rw [wraps, scalar]; rfl)]
  refine ⟨?_, ofPlans_thunksBeside config plans (Extends.refl _), fun used member => ?_⟩
  · rw [entries_eq, ofPlans_types wraps]
  · have known := scalar_known wraps member
    have entry : ⟨(carried config list.wrappers used).type, used.type.text⟩ ∈
        list.wrappers.entries := by
      rw [through member]
      exact intern_entry known
    refine ⟨entry, defined_once entry, ?_⟩
    intro other otherMember
    rw [through member, through otherMember]
    exact intern_name_inj known (scalar_known wraps otherMember)

/-- Three members of a camera use the type of its pointer three times, `f32` once and `i32` once, and
have three wrappers. -/
theorem wrappers_numbered_camera :
    let plans : List MemberPlan := [
      .ofDeclaration (.getter Samples.camera "Enabled" .bool) {},
      .ofDeclaration (.setter Samples.camera "FieldOfView" (.primitive .f32)) {},
      .ofDeclaration (.setter Samples.camera "Enabled" .bool) {}]
    let list := ThunkList.ofPlans {} plans
    Config.wrapScalars {} = true ∧
      list.wrappers.entries = [⟨"__ParamWrapper0", opaquePointer⟩, ⟨"__ParamWrapper1", "f32"⟩,
        ⟨"__ParamWrapper2", "i32"⟩] ∧
      list.wrappers.definitions.count (structureHead "__ParamWrapper1") = 1 := by
  intro plans list
  have wraps : Config.wrapScalars {} = true := rfl
  obtain ⟨entries, _, uses⟩ := wrappers_numbered wraps plans
  have first : numbered (plans.flatMap scalarTexts).eraseDups = [⟨"__ParamWrapper0", opaquePointer⟩,
      ⟨"__ParamWrapper1", "f32"⟩, ⟨"__ParamWrapper2", "i32"⟩] := by decide
  obtain ⟨_, once, _⟩ := uses ⟨⟨"f32", true⟩, "value"⟩ (by decide)
  exact ⟨wraps, entries.trans first, once⟩

end NativeThunks.WrapperNumbering
