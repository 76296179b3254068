import NativeThunks.Generation
import Mathlib.Data.List.Forall2
import Mathlib.Data.List.Induction

/-! Wrapper tables. A table only grows, so the name that a type was given once stays its name, and
the table that the members of a unit leave behind is told from the native types of their arguments
alone. What an argument is written as, and under which table, is said once for a whole list of
arguments and once for the thunks of a whole unit. -/
namespace NativeThunks.WrapperTables

variable {config : Config} {table final : WrapperTable}

/-- One table is an earlier state of another. -/
def Extends (table final : WrapperTable) : Prop := table.types <+: final.types

theorem Extends.refl (table : WrapperTable) : Extends table table := List.prefix_refl _

theorem Extends.trans {middle : WrapperTable} (first : Extends table middle)
    (second : Extends middle final) : Extends table final := List.IsPrefix.trans first second

/-- The types of a table are found by their numbers, and the numbers by the types. -/
theorem lookup_iff {index : Nat} {type : String} :
    table.byType.lookup type = some index ↔ table.types[index]? = some type := by
  rw [table.inStep.listed, WrapperTable.types, List.getElem?_map]

theorem entries_getElem? (table : WrapperTable) (index : Nat) :
    table.entries[index]? = table.types[index]?.map fun type => ⟨wrapperName index, type⟩ := by
  rw [WrapperTable.types, List.getElem?_map, Option.map_map]
  cases found : table.entries[index]? with
  | none => rfl
  | some wrapper =>
    have name := table.inStep.named index wrapper found
    rw [Option.map_some, Function.comp_apply, ← name]

/-- The entry of a type is found under its number. -/
theorem entry_mem {index : Nat} {type : String} (listed : table.types[index]? = some type) :
    ⟨wrapperName index, type⟩ ∈ table.entries := by
  apply List.mem_of_getElem? (i := index)
  rw [entries_getElem?, listed]
  rfl

/-- A table that was extended has its old entries in front. -/
theorem Extends.entries (grown : Extends table final) : table.entries <+: final.entries := by
  have size (table : WrapperTable) : table.entries.length = table.types.length :=
    (List.length_map _).symm
  rw [List.prefix_iff_getElem?]
  intro index inside
  have known : index < table.types.length := size table ▸ inside
  have kept := List.prefix_iff_getElem?.mp grown index known
  rw [entries_getElem?, kept, ← List.getElem?_eq_getElem known, ← entries_getElem?,
    List.getElem?_eq_getElem inside]

theorem intern_listed {type : String} {index : Nat}
    (listed : table.types[index]? = some type) :
    table.intern type = (wrapperName index, table) := by
  have known := lookup_iff.mpr listed
  unfold WrapperTable.intern
  split
  · rename_i found
    obtain rfl := Option.some.inj (known.symm.trans found)
    have inside := table.inStep.inside known
    have name := table.inStep.named index _ (List.getElem?_eq_getElem inside)
    exact congrArg (·, table) name
  · rename_i absent
    cases known.symm.trans absent

theorem intern_fresh {type : String} (fresh : type ∉ table.types) :
    (table.intern type).1 = wrapperName table.types.length ∧
      (table.intern type).2.types = table.types ++ [type] := by
  unfold WrapperTable.intern
  split
  · rename_i found
    exact absurd (List.mem_of_getElem? (lookup_iff.mp found)) fresh
  · simp [WrapperTable.types]

/-- Looking up the wrapper of a type either finds it or adds it at the end. Either way the name is
that of an entry for the type. -/
theorem intern_cases (table : WrapperTable) (type : String) :
    ∃ index, (table.intern type).1 = wrapperName index ∧
      (table.intern type).2.types[index]? = some type ∧ Extends table (table.intern type).2 := by
  by_cases known : type ∈ table.types
  · obtain ⟨index, listed⟩ := List.getElem?_of_mem known
    rw [intern_listed listed]
    exact ⟨index, rfl, listed, Extends.refl table⟩
  · obtain ⟨name, types⟩ := intern_fresh known
    refine ⟨table.types.length, name, ?_, ?_⟩
    · simp [types]
    · rw [Extends, types]
      exact List.prefix_append _ _

/-- The table after the types of some arguments. -/
def internAll (table : WrapperTable) (types : List NativeType) : WrapperTable :=
  types.foldl (fun table type => if type.scalar then (table.intern type.text).2 else table) table

private theorem internAll_extends (table : WrapperTable) (types : List NativeType) :
    Extends table (internAll table types) := by
  induction types generalizing table with
  | nil => exact Extends.refl table
  | cons type rest ih =>
    by_cases scalar : type.scalar = true
    · obtain ⟨_, _, _, grown⟩ := intern_cases table type.text
      simpa [internAll, scalar] using grown.trans (ih (table.intern type.text).2)
    · simpa [internAll, scalar] using ih table

theorem internAll_append (table : WrapperTable) (front behind : List NativeType) :
    internAll table (front ++ behind) = internAll (internAll table front) behind :=
  List.foldl_append

/-- An argument as it is. -/
def bare (argument : NativeArgument) : WrittenArgument := ⟨argument.type.text, argument.expression⟩

/-- What an argument is written as where scalars are wrapped: a scalar has the type of a wrapper, and
is converted to it; anything else stays as it is. -/
inductive Wraps (wrappers : List Wrapper) (argument : NativeArgument) : WrittenArgument → Prop where
  | scalar (scalar : argument.type.scalar = true) (wrapper : Wrapper)
      (listed : wrapper ∈ wrappers) (underlying : wrapper.underlying = (bare argument).type) :
      Wraps wrappers argument
        ⟨wrapper.name, wrapper.name ++ "::from(" ++ (bare argument).expression ++ ")"⟩
  | other (other : argument.type.scalar = false) : Wraps wrappers argument (bare argument)

/-- What an argument is written as beside the wrappers of a unit. -/
def Writes (config : Config) (wrappers : List Wrapper) (argument : NativeArgument)
    (written : WrittenArgument) : Prop :=
  if config.wrapScalars then Wraps wrappers argument written else written = bare argument

/-- The table that one argument leaves behind. -/
theorem write_table (config : Config) (table : WrapperTable) (argument : NativeArgument) :
    (table.write config argument).2 =
      if config.wrapScalars then internAll table [argument.type] else table := by
  unfold WrapperTable.write
  cases config.wrapScalars <;> cases scalar : argument.type.scalar <;> simp [internAll, scalar]

/-- An argument is written beside every table that extends the one it leaves behind. -/
theorem write_writes (argument : NativeArgument)
    (grown : Extends (table.write config argument).2 final) :
    Writes config final.entries argument (table.write config argument).1 := by
  unfold WrapperTable.write at grown ⊢
  unfold Writes
  cases on : config.wrapScalars with
  | false => rfl
  | true =>
    cases scalar : argument.type.scalar with
    | false => exact .other scalar
    | true =>
      rw [on, scalar] at grown
      obtain ⟨index, name, listed, _⟩ := intern_cases table argument.type.text
      have entry := (Extends.entries grown).subset (entry_mem listed)
      simp only [Bool.and_self, if_true, name]
      exact .scalar scalar _ entry rfl

/-- The table that a list of arguments leaves behind depends on their native types. -/
theorem writeAll_table (config : Config) (table : WrapperTable) (arguments : List NativeArgument) :
    (table.writeAll config arguments).2 =
      if config.wrapScalars then internAll table (arguments.map (·.type)) else table := by
  induction arguments generalizing table with
  | nil => simp [WrapperTable.writeAll, internAll]
  | cons argument rest ih =>
    have step : (table.writeAll config (argument :: rest)).2 =
        ((table.write config argument).2.writeAll config rest).2 := rfl
    rw [step, ih, write_table]
    cases config.wrapScalars with
    | false => simp
    | true => simp only [if_true, List.map_cons, ← internAll_append, List.singleton_append]

theorem writeAll_extends (config : Config) (table : WrapperTable)
    (arguments : List NativeArgument) : Extends table (table.writeAll config arguments).2 := by
  rw [writeAll_table]
  split
  · exact internAll_extends table _
  · exact Extends.refl table

/-- A list of arguments is written argument by argument. -/
theorem writeAll_writes (arguments : List NativeArgument)
    (grown : Extends (table.writeAll config arguments).2 final) :
    List.Forall₂ (Writes config final.entries) arguments (table.writeAll config arguments).1 := by
  induction arguments generalizing table with
  | nil => exact .nil
  | cons argument rest ih =>
    have later := writeAll_extends config (table.write config argument).2 rest
    exact .cons (write_writes argument (later.trans grown)) (ih grown)

/-- Arguments are written alike wherever scalars are treated alike. -/
theorem writeAll_congr {first second : Config} (wraps : second.wrapScalars = first.wrapScalars)
    (table : WrapperTable) (arguments : List NativeArgument) :
    table.writeAll second arguments = table.writeAll first arguments := by
  induction arguments generalizing table with
  | nil => rfl
  | cons argument rest ih => simp only [WrapperTable.writeAll, WrapperTable.write, wraps, ih]

/-- The types in the native signature of a member, the receiver's first. -/
def nativeTypes (plan : MemberPlan) : List NativeType :=
  (if plan.symbols.receiver.isSome then [⟨opaquePointer, true⟩] else []) ++
    plan.params.map (·.crossing.nativeType)

/-- The native types do not depend on where the run-time pieces are. -/
theorem nativeArguments_types (plan : MemberPlan) (runtime : String) :
    (plan.nativeArguments runtime).map (·.type) = nativeTypes plan := by
  unfold MemberPlan.nativeArguments nativeTypes
  cases plan.symbols.receiver <;> simp [Function.comp_def]

theorem ofPlans_snoc (config : Config) (plans : List MemberPlan) (plan : MemberPlan) :
    ThunkList.ofPlans config (plans ++ [plan]) =
      (ThunkList.ofPlans config plans).add config plan := by
  simp [ThunkList.ofPlans]

/-- Further plans add thunks behind those that are there, and types behind those in the table. -/
theorem ofPlans_extends (config : Config) (plans more : List MemberPlan) :
    (ThunkList.ofPlans config plans).thunks <+: (ThunkList.ofPlans config (plans ++ more)).thunks ∧
      Extends (ThunkList.ofPlans config plans).wrappers
        (ThunkList.ofPlans config (plans ++ more)).wrappers := by
  induction more using List.reverseRecOn with
  | nil =>
    rw [List.append_nil]
    exact ⟨List.prefix_refl _, Extends.refl _⟩
  | append_singleton more plan ih =>
    rw [← List.append_assoc, ofPlans_snoc]
    exact ⟨ih.1.trans (List.prefix_append _ _), ih.2.trans (writeAll_extends config _ _)⟩

/-- The thunks of plans depend on three settings: how scalars are treated, where the run-time pieces
are, and the calling convention. -/
theorem ofPlans_congr {first second : Config} (wraps : second.wrapScalars = first.wrapScalars)
    (runtime : second.runtimePath = first.runtimePath)
    (convention : second.convention = first.convention) (plans : List MemberPlan) :
    ThunkList.ofPlans second plans = ThunkList.ofPlans first plans := by
  have step : ThunkList.add second = ThunkList.add first := by
    funext list plan
    simp only [ThunkList.add, Thunk.ofPlan, MemberPlan.slot, runtime, convention,
      writeAll_congr wraps]
  rw [ThunkList.ofPlans, ThunkList.ofPlans, step]

/-- The table of a unit holds the native types of its members if scalars are wrapped at all. -/
theorem ofPlans_wrappers (config : Config) (plans : List MemberPlan) :
    (ThunkList.ofPlans config plans).wrappers =
      if config.wrapScalars then internAll {} (plans.flatMap nativeTypes) else {} := by
  induction plans using List.reverseRecOn with
  | nil => simp [ThunkList.ofPlans, internAll]
  | append_singleton plans plan ih =>
    have added : ((ThunkList.ofPlans config plans).add config plan).wrappers =
        ((ThunkList.ofPlans config plans).wrappers.writeAll config
          (plan.nativeArguments config.runtimePath)).2 := rfl
    rw [ofPlans_snoc, added, writeAll_table, ih, nativeArguments_types]
    cases config.wrapScalars with
    | false => rfl
    | true => simp [internAll_append]

/-- A thunk of a plan, with its arguments written beside the wrappers of a unit. -/
def ThunkOf (config : Config) (wrappers : List Wrapper) (plan : MemberPlan) (thunk : Thunk) :
    Prop :=
  ∃ written, List.Forall₂ (Writes config wrappers) (plan.nativeArguments config.runtimePath)
      written ∧
    thunk = ⟨plan.slot config written, plan.function config.runtimePath written⟩

/-- The thunks of a unit are those of its plans, each with arguments that fit the final table. -/
theorem ofPlans_thunks (config : Config) (plans : List MemberPlan)
    (grown : Extends (ThunkList.ofPlans config plans).wrappers final) :
    List.Forall₂ (ThunkOf config final.entries) plans (ThunkList.ofPlans config plans).thunks := by
  induction plans using List.reverseRecOn with
  | nil => exact .nil
  | append_singleton plans plan ih =>
    rw [ofPlans_snoc] at grown ⊢
    have later := writeAll_extends config (ThunkList.ofPlans config plans).wrappers
      (plan.nativeArguments config.runtimePath)
    refine List.rel_append (ih (later.trans grown)) (.cons ?_ .nil)
    exact ⟨_, writeAll_writes _ grown, rfl⟩

end NativeThunks.WrapperTables
