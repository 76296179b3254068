import NativeThunks.Proofs.LexedNames
import NativeThunks.Proofs.PlanStages
import NativeThunks.Proofs.ScalarWrapping
import NativeThunks.Samples

/-! Which object a thunk calls its native function with. The receiver is bound to the pointer of the
object, then locals are declared for the parameters, and then the receiver's name is passed. The check
of names compares it with other names as texts, and not with the locals. Said here is when a local has
taken the name in between: a name is looked up as an identifier, so a raw mark makes no difference, nor
do blanks beside it. -/
namespace NativeThunks.ReceiverBinding
open LexedNames PlanStages ScalarWrapping

variable {config : Config} {decl : Declaration} {plan : MemberPlan} {identifier : String}

/-- A statement before a native call. -/
inductive Statement where
  /-- A block begins, and the call is in it. -/
  | opening
  /-- A local is declared; behind its name there may be a type and a value. -/
  | declare (mutable : Bool) (name behind : String)
deriving DecidableEq, Repr

namespace Statement

/-- The line of a statement. -/
def line : Statement → Line
  | .opening => .opening "\x7b"
  | .declare mutable name behind =>
    .text ((if mutable then "let mut " else "let ") ++ (name ++ behind))

/-- The name of the local that a statement declares. -/
def name? : Statement → Option String
  | .opening => none
  | .declare _ name _ => some name

end Statement

/-- The identifier that a text stands for. A raw mark is no part of it. -/
def identifierOf? (text : String) : Option String :=
  match Grammar.Tree.ofText? text with
  | some [.word word] => some (Naming.stem word)
  | _ => none

/-- Whether an identifier stands for the local of a statement from then on. -/
def Statement.binds (statement : Statement) (identifier : String) : Bool :=
  statement.name?.any fun name => identifierOf? name == some identifier

/-- The statement whose local an identifier stands for behind some statements. -/
def declarationOf? (statements : List Statement) (identifier : String) : Option Statement :=
  statements.reverse.find? (·.binds identifier)

/-- The statement that looks up the native function. -/
def lookup (plan : MemberPlan) : Statement :=
  .declare false "__native"
    (" = " ++ plan.symbols.slot ++ ".get_or_resolve(\"" ++ plan.symbols.entryPoint ++ "\");")

/-- The statement that binds the receiver to the pointer of the object. -/
def binding (receiver runtime : String) : Statement :=
  .declare false receiver (" = " ++ runtime ++ "::handle_ptr(self, \"self\");")

/-- The names of the locals that are declared behind the receiver: that of the result if blocks stand
around the call, and those for the parameters. -/
def localNames (plan : MemberPlan) : List String :=
  (if plan.hasResult && plan.isScoped then ["__result"] else []) ++
  plan.params.filterMap fun parameter => parameter.crossing.localName? parameter.ident

/-- An identifier is none of those that are declared between the receiver and the call. -/
def Apart (plan : MemberPlan) (identifier : String) : Prop :=
  ∀ name ∈ localNames plan, identifierOf? name ≠ some identifier

instance (plan : MemberPlan) (identifier : String) : Decidable (Apart plan identifier) :=
  inferInstanceAs (Decidable (∀ name ∈ localNames plan, identifierOf? name ≠ some identifier))

/-- The expression for a receiver: its name, or the wrapper that is made from it. -/
inductive Passes (receiver : String) : String → Prop where
  | bare : Passes receiver receiver
  | wrapped (wrapper : String) : Passes receiver (wrapper ++ "::from(" ++ receiver ++ ")")

/-- A body looks up the function, binds the receiver, goes on with statements that declare the other
locals, and then calls the function with the receiver as its first argument. -/
structure CallsWith (plan : MemberPlan) (runtime : String) (written : List WrittenArgument)
    (receiver : String) (between : List Statement) : Prop where
  body : ∃ behind, plan.body runtime written =
    (lookup plan :: binding receiver runtime :: between).map Statement.line ++
      .text (callLine plan (written.map (·.expression))) :: behind
  locals : between.filterMap Statement.name? = localNames plan
  argument : ∃ first rest, written.map (·.expression) = first :: rest ∧ Passes receiver first

/-- Before the call a parameter has one local at most, and a block if need be. -/
theorem beforeCall_statements (crossing : Crossing) (name runtime : String) :
    ∃ statements : List Statement,
      (crossing.beforeCall name runtime).1 = statements.map Statement.line ∧
        statements.filterMap Statement.name? = (crossing.localName? name).toList := by
  unfold Crossing.beforeCall Crossing.localName? Crossing.localEnding
  simp only [String.append_assoc]
  cases crossing.strategy with
  | default =>
    cases crossing.mode with
    | value => exact ⟨[], rfl, rfl⟩
    | ref => exact ⟨[.opening, .declare false _ _], rfl, rfl⟩
    | «in» => exact ⟨[.opening, .declare false _ _], rfl, rfl⟩
    | out => exact ⟨[.opening, .declare false _ _], rfl, rfl⟩
  | boolean =>
    cases crossing.mode with
    | value => exact ⟨[.declare false _ _], rfl, rfl⟩
    | ref => exact ⟨[.declare true _ _], rfl, rfl⟩
    | «in» => exact ⟨[.declare false _ _], rfl, rfl⟩
    | out => exact ⟨[.declare true _ _], rfl, rfl⟩
  | stringHandle => exact ⟨[.opening, .declare false _ _], rfl, rfl⟩
  | nativeHandleObject nullable =>
    cases nullable with
    | true => exact ⟨[.declare false _ _], rfl, rfl⟩
    | false => exact ⟨[.declare false _ _], rfl, rfl⟩

private theorem params_statements (params : List PlannedParameter) (runtime : String) :
    ∃ statements : List Statement,
      params.flatMap (fun parameter =>
        (parameter.crossing.beforeCall parameter.ident runtime).1) =
          statements.map Statement.line ∧
        statements.filterMap Statement.name? =
          params.filterMap fun parameter => parameter.crossing.localName? parameter.ident := by
  induction params with
  | nil => exact ⟨[], rfl, rfl⟩
  | cons parameter rest ih =>
    obtain ⟨later, lines, names⟩ := ih
    obtain ⟨first, firstLines, firstNames⟩ :=
      beforeCall_statements parameter.crossing parameter.ident runtime
    refine ⟨first ++ later, ?_, ?_⟩
    · rw [List.flatMap_cons, firstLines, lines, List.map_append]
    · rw [List.filterMap_append, firstNames, names, List.filterMap_cons]
      cases parameter.crossing.localName? parameter.ident <;> rfl

private theorem lookup_line (plan : MemberPlan) :
    (lookup plan).line = .text ("let __native = " ++ plan.symbols.slot ++ ".get_or_resolve(\"" ++
      plan.symbols.entryPoint ++ "\");") := by
  have merged : "let __native = " = "let " ++ ("__native" ++ " = ") := rfl
  simp only [lookup, Statement.line, merged, String.append_assoc]
  rfl

private theorem binding_line (receiver runtime : String) :
    (binding receiver runtime).line =
      .text ("let " ++ receiver ++ " = " ++ runtime ++ "::handle_ptr(self, \"self\");") := by
  simp only [binding, Statement.line, String.append_assoc]
  rfl

/-- The statements before the call declare the locals of the parameters, and before them the result if
blocks stand around the call. -/
theorem body_statements {receiver : String} (bound : plan.symbols.receiver = some receiver)
    (runtime : String) (written : List WrittenArgument) :
    ∃ between behind, plan.body runtime written =
        (lookup plan :: binding receiver runtime :: between).map Statement.line ++
          .text (callLine plan (written.map (·.expression))) :: behind ∧
      between.filterMap Statement.name? = localNames plan := by
  obtain ⟨helpers, lines, names⟩ := params_statements plan.params runtime
  obtain ⟨result, resultLines, resultNames⟩ : ∃ result : List Statement,
      (if plan.hasResult && plan.isScoped then [.text "let __result;"] else []) =
        result.map Statement.line ∧
      result.filterMap Statement.name? =
        if plan.hasResult && plan.isScoped then ["__result"] else [] := by
    split
    · exact ⟨[.declare false "__result" ";"], rfl, rfl⟩
    · exact ⟨[], rfl, rfl⟩
  refine ⟨result ++ helpers, plan.params.reverse.flatMap (fun parameter =>
    parameter.crossing.afterCall parameter.ident runtime) ++
      if plan.hasResult then [.text (plan.ret.unmarshal "__result" runtime)] else [], ?_, ?_⟩
  · have regroup (first second call : Line) (result locals closed behind : List Line) :
        [first] ++ [second] ++ result ++ locals ++ [call] ++ closed ++ behind =
          first :: second :: (result ++ locals) ++ call :: (closed ++ behind) := by simp
    rw [List.map_cons, List.map_cons, List.map_append, lookup_line, binding_line, ← resultLines,
      ← lines, MemberPlan.body, bound]
    exact regroup _ _ _ _ _ _ _
  · rw [List.filterMap_append, resultNames, names, localNames]

private theorem declarationOf_append (front behind : List Statement) (identifier : String) :
    declarationOf? (front ++ behind) identifier =
      (declarationOf? behind identifier).or (declarationOf? front identifier) := by
  rw [declarationOf?, List.reverse_append, List.find?_append]
  rfl

private theorem declarationOf_none_iff {statements : List Statement} :
    declarationOf? statements identifier = none ↔
      ∀ statement ∈ statements, statement.binds identifier = false := by
  simp [declarationOf?]

/-- A declaration is in force until another one takes its identifier. -/
theorem declarationOf_kept {first : Statement} {between : List Statement}
    (binds : first.binds identifier = true)
    (kept : ∀ statement ∈ between, statement.binds identifier = false) (front : List Statement) :
    declarationOf? (front ++ first :: between) identifier = some first := by
  rw [List.append_cons, declarationOf_append, declarationOf_none_iff.mpr kept, Option.none_or,
    declarationOf_append]
  simp [declarationOf?, binds]

private theorem declarationOf_taken {between : List Statement}
    (taken : ¬∀ statement ∈ between, statement.binds identifier = false) (front : List Statement) :
    ∃ statement ∈ between, declarationOf? (front ++ between) identifier = some statement := by
  obtain ⟨statement, found⟩ := Option.ne_none_iff_exists'.mp (mt declarationOf_none_iff.mp taken)
  refine ⟨statement, List.mem_reverse.mp (List.mem_of_find?_eq_some found), ?_⟩
  rw [declarationOf_append, found, Option.some_or]

private theorem unbound_iff {statements : List Statement} :
    (∀ statement ∈ statements, statement.binds identifier = false) ↔
      ∀ name ∈ statements.filterMap Statement.name?, identifierOf? name ≠ some identifier := by
  simp only [List.mem_filterMap, forall_exists_index, and_imp, Statement.binds]
  constructor
  · intro unbound name statement member named
    simpa [named] using unbound statement member
  · intro apart statement member
    cases named : statement.name? with
    | none => rfl
    | some name => simpa using apart name statement member named

theorem identifierOf_of_isIdentifier {text : String} (accepted : Grammar.isIdentifier text = true) :
    ∃ identifier, identifierOf? text = some identifier := by
  obtain ⟨word, _, lexed⟩ := trees_of_isIdentifier accepted
  exact ⟨Naming.stem word, by rw [identifierOf?, lexed]⟩

/-- An identifier of the kind that is kept for the thunks. -/
def Reserved (identifier : String) : Prop := ['_', '_'] <+: identifier.toList

instance (identifier : String) : Decidable (Reserved identifier) :=
  inferInstanceAs (Decidable (['_', '_'] <+: identifier.toList))

/-- A text that begins with two underscores stands for a reserved identifier, if it stands for any. -/
theorem reserved_of_text {rest : String} (named : identifierOf? ("__" ++ rest) = some identifier) :
    Reserved identifier := by
  unfold identifierOf? at named
  split at named
  · rename_i word lexed
    obtain ⟨front, behind, one⟩ := oneWord_of_trees lexed
    have start : Grammar.dropByteOrderMark ("__" ++ rest).toList = '_' :: '_' :: rest.toList := by
      simp [Grammar.dropByteOrderMark]
    rw [start] at one
    have here : front = '_' :: '_' :: rest.toList := by
      cases one.before with
      | here => rfl
      | next skipped later =>
        have solid : Grammar.trivia? ('_' :: '_' :: rest.toList) = none := rfl
        rw [solid] at skipped
        cases skipped
    have taken := here ▸ one.word.takeAnyWord
    have letters : Grammar.takeAnyWord? ('_' :: '_' :: rest.toList) =
        some (String.ofList ('_' :: '_' :: rest.toList.takeWhile Text.isIdentifierContinue),
          rest.toList.dropWhile Text.isIdentifierContinue) := rfl
    rw [letters] at taken
    cases taken
    obtain rfl := Option.some.inj named
    simp [Naming.stem, Reserved]
  · cases named

/-- What is not reserved is apart from all locals of a thunk. -/
theorem apart_of_unreserved (free : ¬Reserved identifier) : Apart plan identifier := by
  intro name member named
  rcases List.mem_append.mp member with result | helper
  · split at result
    · obtain rfl := List.mem_singleton.mp result
      have result_named : identifierOf? ("__" ++ "result") = some identifier := named
      exact free (reserved_of_text result_named)
    · cases result
  · obtain ⟨parameter, _, helper⟩ := List.mem_filterMap.mp helper
    obtain ⟨ending, _, rfl⟩ := Option.map_eq_some_iff.mp helper
    rw [String.append_assoc] at named
    exact free (reserved_of_text named)

/-- The receiver is the first argument, as it is or in a wrapper. -/
theorem written_first (config : Config) (table : WrapperTable) {receiver : String}
    (bound : plan.symbols.receiver = some receiver) (runtime : String) :
    ∃ first rest, ((table.writeAll config (plan.nativeArguments runtime)).1.map (·.expression)) =
      first :: rest ∧ Passes receiver first := by
  rw [MemberPlan.nativeArguments, bound, List.cons_append, WrapperTable.writeAll, List.map_cons]
  refine ⟨_, _, rfl, ?_⟩
  unfold WrapperTable.write
  split
  · exact .wrapped _
  · exact .bare

/-- Between the receiver and the call no statement takes the receiver's identifier exactly when the
identifier is apart from the locals that are declared there, as everything is that is not reserved. Then
the function is called with the pointer of the object, and otherwise with a local. -/
theorem receiver_kept_iff (planned : decl.plan config = .ok plan) (bound : decl.isStatic = false)
    (table : WrapperTable) :
    ∃ receiver identifier between, plan.symbols.receiver = some receiver ∧
      identifierOf? receiver = some identifier ∧
      CallsWith plan config.runtimePath
        (table.writeAll config (plan.nativeArguments config.runtimePath)).1 receiver between ∧
      ((∀ statement ∈ between, statement.binds identifier = false) ↔ Apart plan identifier) ∧
      (Apart plan identifier → receiver ∉ localNames plan ∧
        declarationOf? (lookup plan :: binding receiver config.runtimePath :: between) identifier =
          some (binding receiver config.runtimePath)) ∧
      (¬Apart plan identifier → ∃ statement ∈ between,
        declarationOf? (lookup plan :: binding receiver config.runtimePath :: between) identifier =
          some statement) ∧
      (¬Reserved identifier → Apart plan identifier) := by
  obtain ⟨passed, rfl⟩ := plan_ok planned
  have given : (MemberPlan.ofDeclaration decl config).symbols.receiver =
      some (decl.thisName.getD config.receiverName) := by
    simp [MemberPlan.ofDeclaration, MemberSymbols.ofDeclaration, Declaration.receiverName, bound]
  obtain ⟨identifier, named⟩ :=
    identifierOf_of_isIdentifier ((names_accepted passed.names).receiver _ given)
  obtain ⟨between, behind, body, names⟩ := body_statements given config.runtimePath
    (table.writeAll config _).1
  have unbound : (∀ statement ∈ between, statement.binds identifier = false) ↔
      Apart (.ofDeclaration decl config) identifier := by rw [unbound_iff, names, Apart]
  refine ⟨_, identifier, between, given, named,
    ⟨⟨behind, body⟩, names, written_first config table given _⟩,
    unbound, fun apart => ?kept, fun clash => ?taken, apart_of_unreserved⟩
  case kept =>
    have binds : (binding (decl.thisName.getD config.receiverName) config.runtimePath).binds
        identifier = true := by simp [binding, Statement.binds, Statement.name?, named]
    exact ⟨fun clash => apart _ clash named,
      declarationOf_kept binds (unbound.mpr apart) [lookup _]⟩
  case taken => exact declarationOf_taken (mt unbound.mp clash) [lookup _, binding _ _]

/-- The receiver of a member with two parameters and a result is kept. -/
theorem receiver_kept_project :
    let project := { Declaration.method Samples.camera "Project" with
      params := [{ name := "label", type := .str false },
        { name := "origin", type := .named "Vector3", mode := .ref }]
      ret := .primitive .f32 }
    let plan := MemberPlan.ofDeclaration project {}
    project.plan {} = .ok plan ∧ project.isStatic = false ∧ Apart plan "__this" ∧
      ∃ between, declarationOf? (lookup plan :: binding "__this" (Config.runtimePath {}) :: between)
          "__this" = some (binding "__this" (Config.runtimePath {})) ∧
        ∀ statement ∈ between, statement.binds "__this" = false := by
  intro project plan
  have planned : project.plan {} = .ok plan := by decide +kernel
  have apart : Apart plan "__this" := by decide +kernel
  obtain ⟨receiver, identifier, between, given, named, _, unbound, kept, _, _⟩ :=
    receiver_kept_iff planned rfl {}
  obtain rfl : "__this" = receiver := Option.some.inj given
  have own : identifierOf? "__this" = some "__this" := by decide +kernel
  obtain rfl : "__this" = identifier := Option.some.inj (own.symm.trans named)
  exact ⟨planned, rfl, apart, between, (kept apart).2, unbound.mpr apart⟩

/-- A receiver may be named after the local of a parameter. Then the native function is called with the
object of the parameter in the place of the receiver. -/
theorem receiver_taken_by_target :
    let follow := { Declaration.method Samples.camera "Follow" with
      params := [{ name := "target", type := .nativeObject "engine::Camera" false }]
      thisName := some "__target_handle" }
    let plan := MemberPlan.ofDeclaration follow {}
    let runtime := Config.runtimePath {}
    let written := (WrapperTable.writeAll {} {} (plan.nativeArguments runtime)).1
    let helper := Statement.declare false "__target_handle"
      (" = " ++ runtime ++ "::handle_ptr(target, \"target\");")
    let statements := [lookup plan, binding "__target_handle" runtime, helper]
    Config.isValid {} = true ∧ follow.plan {} = .ok plan ∧ follow.isStatic = false ∧
      plan.symbols.receiver = some "__target_handle" ∧ "__target_handle" ∈ localNames plan ∧
      plan.body runtime written =
        statements.map Statement.line ++ [.text (callLine plan (written.map (·.expression)))] ∧
      declarationOf? statements "__target_handle" = some helper := by
  decide +kernel

end NativeThunks.ReceiverBinding
