import NativeThunks.Proofs.PlanStages
import NativeThunks.Samples
import Mathlib.Data.List.Nodup

/-! Which members are legal, and what is said about those that are not. The rules are stated here by
themselves, each with the diagnostic for its violation and the stage that it belongs to. A member is
planned exactly if it breaks no rule; otherwise the diagnostics are those of all rules of one stage
that it breaks, and it breaks no rule of an earlier stage. -/
namespace NativeThunks.LegalMembers
open PlanStages

variable {config : Config} {decl : Declaration} {diagnostic : Diagnostic}

/-! ## Rules -/

/-- The stages in which members are judged. -/
inductive Stage where
  | generic
  | generated
  | signature
  | names
  | values
deriving DecidableEq, Repr

/-- The place of a stage among the others. -/
def Stage.rank : Stage → Nat
  | .generic => 0
  | .generated => 1
  | .signature => 2
  | .names => 3
  | .values => 4

/-- The stage that a kind of diagnostics belongs to. Some are about other things than one member. -/
def stageOf : DiagnosticKind → Option Stage
  | .memberMustNotBeGeneric => some .generic
  | .methodMustBeGenerated | .accessorMustBeGenerated => some .generated
  | .malformedSignature => some .signature
  | .invalidName => some .names
  | .cannotPassByRef | .cannotBeReturned => some .values
  | _ => none

/-- The names of the parameters in the generated code. -/
def idents (decl : Declaration) : List String :=
  decl.params.map fun parameter => Naming.escapeReserved parameter.name

/-- A name that a parameter may have: an identifier that is not kept for the thunks. -/
structure Usable (ident : String) : Prop where
  identifier : Grammar.isIdentifier ident = true
  free : ¬['_', '_'] <+: ident.toList

/-- A name that the receiver may have beside the parameters. -/
structure UsableReceiver (decl : Declaration) (receiver : String) : Prop where
  identifier : Grammar.isIdentifier receiver = true
  free : receiver ≠ "__native" ∧ receiver ≠ "__result"
  own : ∀ ident ∈ idents decl, Usable ident → ident ≠ receiver

instance : DecidablePred Usable := fun ident =>
  decidable_of_iff (Grammar.isIdentifier ident = true ∧ ¬['_', '_'] <+: ident.toList)
    ⟨fun both => ⟨both.1, both.2⟩, fun usable => ⟨usable.identifier, usable.free⟩⟩

instance (decl : Declaration) : DecidablePred (UsableReceiver decl) := fun receiver =>
  decidable_of_iff (Grammar.isIdentifier receiver = true ∧
      (receiver ≠ "__native" ∧ receiver ≠ "__result") ∧
      ∀ ident ∈ idents decl, Usable ident → ident ≠ receiver)
    ⟨fun all => ⟨all.1, all.2.1, all.2.2⟩, fun usable => ⟨usable.identifier, usable.free, usable.own⟩⟩

/-- The name of the receiver of an instance member. -/
def receiverOf (config : Config) (decl : Declaration) : String :=
  decl.thisName.getD config.receiverName

/-- Whether a type is that of a managed object. -/
def isObject : TypeRef → Bool
  | .nativeObject _ _ => true
  | _ => false

/-- Whether a type is that of a text. -/
def isText : TypeRef → Bool
  | .str _ => true
  | _ => false

/-- Whether a parameter does not cross the boundary: texts and objects cross by value only. -/
def isStuck (parameter : Parameter) : Bool :=
  parameter.mode.isByRef && (isText parameter.type || isObject parameter.type)

/-- A rule that a member breaks: its stage, and the diagnostic that says so. -/
inductive Violates (config : Config) (decl : Declaration) : Stage → Diagnostic → Prop where
  | generic (broken : decl.generic = true) :
      Violates config decl .generic (.memberMustNotBeGeneric decl)
  | unmarked (broken : decl.generated = false) :
      Violates config decl .generated (.memberMustBeGenerated decl)
  | getterParameters (kind : decl.kind = .propertyGetter) (broken : decl.params ≠ []) :
      Violates config decl .signature (.malformedSignature decl "must not take parameters")
  | getterValue (kind : decl.kind = .propertyGetter) (broken : decl.ret = .unit) :
      Violates config decl .signature (.malformedSignature decl "must return a value")
  | setterMode (kind : decl.kind = .propertySetter) (value : Parameter)
      (one : decl.params = [value]) (broken : value.mode ≠ .value) :
      Violates config decl .signature (.malformedSignature decl "must take its value by value")
  | setterParameters (kind : decl.kind = .propertySetter) (broken : decl.params.length ≠ 1) :
      Violates config decl .signature (.malformedSignature decl "must take exactly one parameter")
  | setterResult (kind : decl.kind = .propertySetter) (broken : decl.ret ≠ .unit) :
      Violates config decl .signature (.malformedSignature decl "must not return a value")
  | arity (broken : 12 < decl.params.length + if decl.isStatic then 0 else 1) :
      Violates config decl .signature (.malformedSignature decl ("takes " ++
        toString (decl.params.length + if decl.isStatic then 0 else 1) ++
        " native arguments; at most " ++ toString maxNativeArity ++ " are supported"))
  | unitParameter (parameter : Parameter) (member : parameter ∈ decl.params)
      (broken : parameter.type = .unit) : Violates config decl .signature
        (.malformedSignature decl ("has a parameter '" ++ parameter.name ++ "' of type '()'"))
  | functionName (broken : Grammar.isIdentifier decl.functionName = false) :
      Violates config decl .names (.invalidName decl "function name" decl.functionName)
  | entryPoint (broken : Grammar.isIdentifier (slotName decl.entryPoint) = false) :
      Violates config decl .names (.invalidName decl "entry point" decl.entryPoint)
  | parameterName (ident : String) (member : ident ∈ idents decl) (broken : ¬Usable ident) :
      Violates config decl .names (.invalidName decl "parameter name" ident)
  | repeatedName (earlier later : List String) (ident : String)
      (split : idents decl = earlier ++ ident :: later) (usable : Usable ident)
      (broken : ident ∈ earlier) :
      Violates config decl .names (.invalidName decl "repeated parameter name" ident)
  | receiver (bound : decl.isStatic = false)
      (broken : ¬UsableReceiver decl (receiverOf config decl)) :
      Violates config decl .names (.invalidName decl "receiver name" (receiverOf config decl))
  | typePath (type : TypeRef) (member : type ∈ decl.params.map (·.type) ++ [decl.ret])
      (path : String) (listed : path ∈ type.paths) (broken : Grammar.isType path = false) :
      Violates config decl .names (.invalidName decl "type path" path)
  | parameter (parameter : Parameter) (member : parameter ∈ decl.params)
      (broken : isStuck parameter = true) : Violates config decl .values
        (.cannotPassByRef decl parameter.name parameter.mode.text parameter.type.display)
  | result (broken : isObject decl.ret = true) :
      Violates config decl .values (.cannotBeReturned decl decl.ret.display)

/-- A signature that fits the kind of its member. A method may have any. -/
structure FitsKind (decl : Declaration) : Prop where
  getter : decl.kind = .propertyGetter → decl.params = [] ∧ decl.ret ≠ .unit
  setter : decl.kind = .propertySetter →
    (∃ value, decl.params = [value] ∧ value.mode = .value) ∧ decl.ret = .unit

/-- A member that breaks no rule. -/
structure Legal (config : Config) (decl : Declaration) : Prop where
  concrete : decl.generic = false
  marked : decl.generated = true
  kind : FitsKind decl
  arity : decl.params.length + (if decl.isStatic then 0 else 1) ≤ 12
  valued : ∀ parameter ∈ decl.params, parameter.type ≠ .unit
  functionName : Grammar.isIdentifier decl.functionName = true
  entryPoint : Grammar.isIdentifier (slotName decl.entryPoint) = true
  names : ∀ ident ∈ idents decl, Usable ident
  distinct : (idents decl).Nodup
  receiver : decl.isStatic = false → UsableReceiver decl (receiverOf config decl)
  typePaths : ∀ type ∈ decl.params.map (·.type) ++ [decl.ret], ∀ path ∈ type.paths,
    Grammar.isType path = true
  parameters : ∀ parameter ∈ decl.params, isStuck parameter = false
  result : isObject decl.ret = false

/-- A rule as it is checked: whether it is broken, and the diagnostic that says so. -/
structure Rule where
  broken : Bool
  diagnostic : Diagnostic

/-- What is reported of rules: one diagnostic for each that is broken, in their order. -/
def reports (rules : List Rule) : List Diagnostic :=
  (rules.filter (·.broken)).map (·.diagnostic)

/-- The rules for signatures. Those for kinds come first, then the number of arguments, then every
parameter. -/
def signatureRules (decl : Declaration) : List Rule :=
  let getter := decl.kind == .propertyGetter
  let setter := decl.kind == .propertySetter
  let arity := decl.params.length + if decl.isStatic then 0 else 1
  [⟨getter && !decl.params.isEmpty, .malformedSignature decl "must not take parameters"⟩,
    ⟨getter && decl.ret == .unit, .malformedSignature decl "must return a value"⟩,
    ⟨setter && decl.params.length == 1 && decl.params.any (·.mode != .value),
      .malformedSignature decl "must take its value by value"⟩,
    ⟨setter && decl.params.length != 1,
      .malformedSignature decl "must take exactly one parameter"⟩,
    ⟨setter && decl.ret != .unit, .malformedSignature decl "must not return a value"⟩,
    ⟨12 < arity, .malformedSignature decl ("takes " ++ toString arity ++
      " native arguments; at most " ++ toString maxNativeArity ++ " are supported")⟩] ++
  decl.params.map fun parameter => ⟨parameter.type == .unit,
    .malformedSignature decl ("has a parameter '" ++ parameter.name ++ "' of type '()'")⟩

/-- The rules for the names of parameters, behind the names of earlier ones. -/
def parameterRules (decl : Declaration) (earlier : List String) : List String → List Rule
  | [] => []
  | ident :: rest =>
    ⟨¬Usable ident, .invalidName decl "parameter name" ident⟩ ::
      ⟨Usable ident ∧ ident ∈ earlier, .invalidName decl "repeated parameter name" ident⟩ ::
        parameterRules decl (earlier ++ [ident]) rest

/-- The rules for names, in the order in which a thunk is made of them. -/
def nameRules (config : Config) (decl : Declaration) : List Rule :=
  [⟨!Grammar.isIdentifier decl.functionName,
      .invalidName decl "function name" decl.functionName⟩,
    ⟨!Grammar.isIdentifier (slotName decl.entryPoint),
      .invalidName decl "entry point" decl.entryPoint⟩] ++
  parameterRules decl [] (idents decl) ++
  [⟨decl.isStatic = false ∧ ¬UsableReceiver decl (receiverOf config decl),
    .invalidName decl "receiver name" (receiverOf config decl)⟩] ++
  ((decl.params.map (·.type) ++ [decl.ret]).flatMap TypeRef.paths).map fun path =>
    ⟨!Grammar.isType path, .invalidName decl "type path" path⟩

/-- The rules of a stage in the order in which they are checked. -/
def rulesOf (config : Config) (decl : Declaration) : Stage → List Rule
  | .generic => [⟨decl.generic, .memberMustNotBeGeneric decl⟩]
  | .generated => [⟨!decl.generated, .memberMustBeGenerated decl⟩]
  | .signature => signatureRules decl
  | .names => nameRules config decl
  | .values =>
    decl.params.map (fun parameter => ⟨isStuck parameter,
      .cannotPassByRef decl parameter.name parameter.mode.text parameter.type.display⟩) ++
    [⟨isObject decl.ret, .cannotBeReturned decl decl.ret.display⟩]

/-- The kind of a diagnostic tells its stage. -/
theorem stage_of_violates {stage : Stage} (violates : Violates config decl stage diagnostic) :
    stageOf diagnostic.kind = some stage := by
  cases violates with
  | unmarked =>
    cases kind : decl.kind <;>
      simp [Diagnostic.memberMustBeGenerated, Diagnostic.aboutMember, kind, MemberKind.isAccessor,
        stageOf]
  | _ => rfl

/-! ## Reports -/

@[simp] theorem reports_nil : reports [] = [] := rfl

@[simp] theorem reports_cons (rule : Rule) (rest : List Rule) :
    reports (rule :: rest) = (if rule.broken then [rule.diagnostic] else []) ++ reports rest := by
  unfold reports
  rw [List.filter_cons]
  split <;> rfl

@[simp] theorem reports_append (front behind : List Rule) :
    reports (front ++ behind) = reports front ++ reports behind := by
  simp [reports]

private theorem reports_map {α : Type} (items : List α) (broken : α → Bool)
    (diagnostic : α → Diagnostic) :
    reports (items.map fun item => ⟨broken item, diagnostic item⟩) =
      (items.filter broken).map diagnostic := by
  simp [reports, List.filter_map, Function.comp_def]

private theorem mem_reports {rules : List Rule} :
    diagnostic ∈ reports rules ↔ ∃ rule ∈ rules, rule.broken = true ∧ rule.diagnostic = diagnostic := by
  simp [reports, and_assoc]

private theorem mem_signatureRules :
    diagnostic ∈ reports (signatureRules decl) ↔ Violates config decl .signature diagnostic := by
  constructor
  · intro reported
    obtain ⟨rule, listed, broken, rfl⟩ := mem_reports.mp reported
    rcases List.mem_append.mp listed with fixed | each
    · simp only [List.mem_cons, List.not_mem_nil, or_false] at fixed
      rcases fixed with rfl | rfl | rfl | rfl | rfl | rfl
      · obtain ⟨kind, given⟩ : decl.kind = .propertyGetter ∧ decl.params ≠ [] := by
          simpa using broken
        exact .getterParameters kind given
      · obtain ⟨kind, nothing⟩ : decl.kind = .propertyGetter ∧ decl.ret = .unit := by
          simpa using broken
        exact .getterValue kind nothing
      · obtain ⟨⟨kind, one⟩, value, member, mode⟩ :
            (decl.kind = .propertySetter ∧ decl.params.length = 1) ∧
              ∃ value ∈ decl.params, value.mode ≠ .value := by simpa using broken
        obtain ⟨only, alone⟩ := List.length_eq_one_iff.mp one
        obtain rfl : value = only := by simpa [alone] using member
        exact .setterMode kind value alone mode
      · obtain ⟨kind, several⟩ : decl.kind = .propertySetter ∧ decl.params.length ≠ 1 := by
          simpa using broken
        exact .setterParameters kind several
      · obtain ⟨kind, some⟩ : decl.kind = .propertySetter ∧ decl.ret ≠ .unit := by
          simpa using broken
        exact .setterResult kind some
      · exact .arity (of_decide_eq_true broken)
    · obtain ⟨parameter, member, rfl⟩ := List.mem_map.mp each
      exact .unitParameter parameter member (beq_iff_eq.mp broken)
  · intro violates
    unfold signatureRules
    rw [reports_append, List.mem_append]
    cases violates with
    | getterParameters kind broken => simp [kind, broken]
    | getterValue kind broken => simp [kind, broken]
    | setterMode kind value one broken => simp [kind, one, broken]
    | setterParameters kind broken => simp [kind, broken]
    | setterResult kind broken => simp [kind, broken]
    | arity broken => simp [broken]
    | unitParameter parameter member broken =>
      exact .inr (mem_reports.mpr
        ⟨_, List.mem_map_of_mem member, beq_iff_eq.mpr broken, rfl⟩)

/-- What is reported for the parameters: every name that is not usable, and every one that is repeated. -/
theorem mem_parameterRules {earlier names : List String} :
    diagnostic ∈ reports (parameterRules decl earlier names) ↔
      (∃ ident ∈ names, ¬Usable ident ∧
        diagnostic = .invalidName decl "parameter name" ident) ∨
      ∃ front ident back, names = front ++ ident :: back ∧ Usable ident ∧
        ident ∈ earlier ++ front ∧
        diagnostic = .invalidName decl "repeated parameter name" ident := by
  induction names generalizing earlier with
  | nil => simp [parameterRules]
  | cons first rest ih =>
    rw [parameterRules, reports_cons, reports_cons, List.mem_append, List.mem_append, ih]
    constructor
    · rintro (unusable | repeated | ⟨ident, member, broken, rfl⟩ |
        ⟨front, ident, back, rfl, usable, known, rfl⟩)
      · split at unusable
        · obtain rfl := List.mem_singleton.mp unusable
          exact .inl ⟨first, List.mem_cons_self, of_decide_eq_true ‹_›, rfl⟩
        · cases unusable
      · split at repeated
        · obtain rfl := List.mem_singleton.mp repeated
          obtain ⟨usable, known⟩ := of_decide_eq_true ‹_›
          exact .inr ⟨[], first, rest, rfl, usable, by simpa using known, rfl⟩
        · cases repeated
      · exact .inl ⟨ident, List.mem_cons_of_mem _ member, broken, rfl⟩
      · exact .inr ⟨first :: front, ident, back, rfl, usable, by simpa using known, rfl⟩
    · rintro (⟨ident, member, broken, rfl⟩ | ⟨front, ident, back, split, usable, known, rfl⟩)
      · rcases List.mem_cons.mp member with rfl | later
        · exact .inl (by simp [broken])
        · exact .inr (.inr (.inl ⟨ident, later, broken, rfl⟩))
      · rcases List.cons_eq_append_iff.mp split with ⟨rfl, same⟩ | ⟨behind, rfl, same⟩
        · obtain ⟨rfl, rfl⟩ := List.cons.inj same
          rw [List.append_nil] at known
          exact .inr (.inl (by simp [usable, known]))
        · exact .inr (.inr (.inr ⟨behind, ident, back, same, usable, by simpa using known, rfl⟩))

private theorem mem_nameRules :
    diagnostic ∈ reports (nameRules config decl) ↔ Violates config decl .names diagnostic := by
  have paths : diagnostic ∈ reports (((decl.params.map (·.type) ++ [decl.ret]).flatMap
      TypeRef.paths).map fun path =>
        ⟨!Grammar.isType path, .invalidName decl "type path" path⟩) ↔
      ∃ type ∈ decl.params.map (·.type) ++ [decl.ret], ∃ path ∈ type.paths,
        Grammar.isType path = false ∧ .invalidName decl "type path" path = diagnostic := by
    rw [reports_map]
    simp only [List.mem_map, List.mem_filter, List.mem_flatMap, Bool.not_eq_true']
    grind
  unfold nameRules
  simp only [reports_append, List.mem_append, mem_parameterRules, paths, List.nil_append]
  constructor
  · rintro (((fixed | ⟨ident, member, broken, rfl⟩ | ⟨front, ident, back, split, usable, known, rfl⟩) |
      receiver) | ⟨type, member, path, listed, broken, rfl⟩)
    · obtain ⟨rule, listed, broken, rfl⟩ := mem_reports.mp fixed
      simp only [List.mem_cons, List.not_mem_nil, or_false] at listed
      rcases listed with rfl | rfl
      · exact .functionName (by simpa using broken)
      · exact .entryPoint (by simpa using broken)
    · exact .parameterName ident member broken
    · exact .repeatedName front back ident split usable known
    · obtain ⟨rule, listed, broken, rfl⟩ := mem_reports.mp receiver
      obtain rfl := List.mem_singleton.mp listed
      obtain ⟨bound, unusable⟩ := of_decide_eq_true broken
      exact .receiver bound unusable
    · exact .typePath type (List.mem_append.mpr member) path listed broken
  · intro violates
    cases violates with
    | functionName broken => simp [broken]
    | entryPoint broken => simp [broken]
    | parameterName ident member broken =>
      exact .inl (.inl (.inr (.inl ⟨ident, member, broken, rfl⟩)))
    | repeatedName earlier later ident split usable broken =>
      exact .inl (.inl (.inr (.inr ⟨earlier, ident, later, split, usable, broken, rfl⟩)))
    | receiver bound broken => exact .inl (.inr (by simp [bound, broken]))
    | typePath type member path listed broken =>
      exact .inr ⟨type, List.mem_append.mp member, path, listed, broken, rfl⟩

/-- The rules of a stage report what the member violates in that stage. -/
theorem mem_rulesOf (stage : Stage) :
    diagnostic ∈ reports (rulesOf config decl stage) ↔ Violates config decl stage diagnostic := by
  cases stage with
  | generic =>
    constructor
    · intro reported
      obtain ⟨rule, listed, broken, rfl⟩ := mem_reports.mp reported
      obtain rfl := List.mem_singleton.mp listed
      exact .generic broken
    · intro violates
      cases violates with
      | generic broken => simp [rulesOf, broken]
  | generated =>
    constructor
    · intro reported
      obtain ⟨rule, listed, broken, rfl⟩ := mem_reports.mp reported
      obtain rfl := List.mem_singleton.mp listed
      exact .unmarked (by simpa using broken)
    · intro violates
      cases violates with
      | unmarked broken => simp [rulesOf, broken]
  | signature => exact mem_signatureRules
  | names => exact mem_nameRules
  | values =>
    constructor
    · intro reported
      obtain ⟨rule, listed, broken, rfl⟩ := mem_reports.mp reported
      rcases List.mem_append.mp listed with each | returned
      · obtain ⟨parameter, member, rfl⟩ := List.mem_map.mp each
        exact .parameter parameter member broken
      · obtain rfl := List.mem_singleton.mp returned
        exact .result broken
    · intro violates
      apply mem_reports.mpr
      cases violates with
      | parameter parameter member broken =>
        exact ⟨_, List.mem_append_left _ (List.mem_map_of_mem member), broken, rfl⟩
      | result broken => exact ⟨_, List.mem_append_right _ List.mem_cons_self, broken, rfl⟩

/-! ## Legal members -/

/-- No name is repeated if none stands behind itself. -/
theorem nodup_iff_split {names : List String} :
    names.Nodup ↔ ∀ earlier name later, names = earlier ++ name :: later → name ∉ earlier := by
  constructor
  · rintro distinct earlier name later rfl member
    exact (List.nodup_append.mp distinct).2.2 name member name List.mem_cons_self rfl
  · intro split
    induction names with
    | nil => exact List.nodup_nil
    | cons first rest ih =>
      refine List.nodup_cons.mpr ⟨fun member => ?_, ih fun earlier name later same => ?_⟩
      · obtain ⟨earlier, later, rfl⟩ := List.append_of_mem member
        exact split (first :: earlier) first later rfl List.mem_cons_self
      · have apart := split (first :: earlier) name later (by rw [same, List.cons_append])
        intro member
        exact apart (List.mem_cons_of_mem _ member)

/-- A legal member breaks no rule of any stage. -/
theorem Legal.silent (legal : Legal config decl) (stage : Stage) (diagnostic : Diagnostic) :
    ¬Violates config decl stage diagnostic := by
  intro violates
  cases violates with
  | generic broken => simp [legal.concrete] at broken
  | unmarked broken => simp [legal.marked] at broken
  | getterParameters kind broken => exact broken (legal.kind.getter kind).1
  | getterValue kind broken => exact (legal.kind.getter kind).2 broken
  | setterMode kind value one broken =>
    obtain ⟨⟨given, only, mode⟩, _⟩ := legal.kind.setter kind
    obtain rfl : value = given := by simpa [one] using only
    exact broken mode
  | setterParameters kind broken =>
    obtain ⟨⟨given, only, _⟩, _⟩ := legal.kind.setter kind
    exact broken (by rw [only]; rfl)
  | setterResult kind broken => exact broken (legal.kind.setter kind).2
  | arity broken => exact absurd legal.arity (Nat.not_le.mpr broken)
  | unitParameter parameter member broken => exact legal.valued parameter member broken
  | functionName broken => simp [legal.functionName] at broken
  | entryPoint broken => simp [legal.entryPoint] at broken
  | parameterName ident member broken => exact broken (legal.names ident member)
  | repeatedName earlier later ident split usable broken =>
    exact nodup_iff_split.mp legal.distinct earlier ident later split broken
  | receiver bound broken => exact broken (legal.receiver bound)
  | typePath type member path listed broken =>
    simp [legal.typePaths type member path listed] at broken
  | parameter parameter member broken => simp [legal.parameters parameter member] at broken
  | result broken => simp [legal.result] at broken

/-- A member that breaks no rule is legal. -/
theorem legal_of_silent (silent : ∀ stage diagnostic, ¬Violates config decl stage diagnostic) :
    Legal config decl := by
  have shape := silent .signature
  have names := silent .names
  have values := silent .values
  have usable : ∀ ident ∈ idents decl, Usable ident := by
    intro ident member
    exact Classical.byContradiction fun broken => names _ (.parameterName ident member broken)
  constructor
  case concrete => exact Bool.eq_false_iff.mpr fun broken => silent _ _ (.generic broken)
  case marked =>
    exact Bool.of_not_eq_false fun broken => silent _ _ (.unmarked broken)
  case kind =>
    constructor
    · intro kind
      exact ⟨Classical.byContradiction fun broken => shape _ (.getterParameters kind broken),
        fun broken => shape _ (.getterValue kind broken)⟩
    · intro kind
      have one : decl.params.length = 1 :=
        Classical.byContradiction fun broken => shape _ (.setterParameters kind broken)
      obtain ⟨value, only⟩ := List.length_eq_one_iff.mp one
      exact ⟨⟨value, only, Classical.byContradiction fun broken =>
          shape _ (.setterMode kind value only broken)⟩,
        Classical.byContradiction fun broken => shape _ (.setterResult kind broken)⟩
  case arity => exact Nat.not_lt.mp fun broken => shape _ (.arity broken)
  case valued => exact fun parameter member broken => shape _ (.unitParameter parameter member broken)
  case functionName =>
    exact Bool.of_not_eq_false fun broken => names _ (.functionName broken)
  case entryPoint =>
    exact Bool.of_not_eq_false fun broken => names _ (.entryPoint broken)
  case names => exact usable
  case distinct =>
    apply nodup_iff_split.mpr
    intro earlier ident later split broken
    have member : ident ∈ idents decl := by simp [split]
    exact names _ (.repeatedName earlier later ident split (usable ident member) broken)
  case receiver =>
    intro bound
    exact Classical.byContradiction fun broken => names _ (.receiver bound broken)
  case typePaths =>
    exact fun type member path listed => Bool.of_not_eq_false fun broken =>
      names _ (.typePath type member path listed broken)
  case parameters =>
    exact fun parameter member => Bool.eq_false_iff.mpr fun broken =>
      values _ (.parameter parameter member broken)
  case result => exact Bool.eq_false_iff.mpr fun broken => values _ (.result broken)

private theorem legal_iff :
    Legal config decl ↔ ∀ stage diagnostic, ¬Violates config decl stage diagnostic :=
  ⟨Legal.silent, legal_of_silent⟩

/-! ## Faults -/

/-- The faults of a member in a stage. -/
def faultsOf (config : Config) (decl : Declaration) : Stage → List Diagnostic
  | .generic => if decl.generic then [.memberMustNotBeGeneric decl] else []
  | .generated => if decl.generated then [] else [.memberMustBeGenerated decl]
  | .signature => decl.signatureFaults
  | .names => decl.nameFaults (.ofDeclaration decl config)
  | .values => decl.crossingFaults

private theorem isUnit_iff {type : TypeRef} : type.isUnit = true ↔ type = .unit := by
  cases type <;> simp [TypeRef.isUnit]

private theorem isByRef_iff {mode : PassMode} : mode.isByRef = true ↔ mode ≠ .value := by
  cases mode <;> simp [PassMode.isByRef]

private theorem isParameterName_iff {ident : String} :
    Declaration.isParameterName ident = true ↔ Usable ident := by
  simp only [Declaration.isParameterName, Bool.and_eq_true, Bool.not_eq_true',
    ← Bool.not_eq_true, List.isPrefixOf_iff_prefix]
  exact ⟨fun both => ⟨both.1, both.2⟩, fun usable => ⟨usable.identifier, usable.free⟩⟩

/-- What the check of the names does with one parameter: it reports a name that is not usable or that
is taken, and otherwise takes it. -/
theorem parameterNameFaults_cons (decl : Declaration) (ident : String) (rest taken : List String) :
    (¬Usable ident ∧ decl.parameterNameFaults (ident :: rest) taken =
      (.invalidName decl "parameter name" ident :: (decl.parameterNameFaults rest taken).1,
        (decl.parameterNameFaults rest taken).2)) ∨
    (Usable ident ∧ ident ∈ taken ∧ decl.parameterNameFaults (ident :: rest) taken =
      (.invalidName decl "repeated parameter name" ident ::
        (decl.parameterNameFaults rest taken).1, (decl.parameterNameFaults rest taken).2)) ∨
    (Usable ident ∧ ident ∉ taken ∧ decl.parameterNameFaults (ident :: rest) taken =
      decl.parameterNameFaults rest (ident :: taken)) := by
  by_cases usable : Usable ident
  · have accepted := isParameterName_iff.mpr usable
    by_cases known : ident ∈ taken
    · exact .inr (.inl ⟨usable, known, by simp [Declaration.parameterNameFaults, accepted, known]⟩)
    · exact .inr (.inr ⟨usable, known, by simp [Declaration.parameterNameFaults, accepted, known]⟩)
  · have refused := mt isParameterName_iff.mp usable
    exact .inl ⟨usable, by simp [Declaration.parameterNameFaults, refused]⟩

/-- The names that are taken behind some parameters are the usable ones among theirs. -/
theorem mem_taken {names taken : List String} {name : String} :
    name ∈ (decl.parameterNameFaults names taken).2 ↔
      name ∈ taken ∨ name ∈ names ∧ Usable name := by
  induction names generalizing taken with
  | nil => simp [Declaration.parameterNameFaults]
  | cons ident rest ih =>
    rcases parameterNameFaults_cons decl ident rest taken with
      ⟨unusable, step⟩ | ⟨usable, known, step⟩ | ⟨usable, fresh, step⟩
    all_goals rw [step, ih]
    · grind
    · grind
    · grind

private theorem usableReceiver_iff {receiver : String} :
    UsableReceiver decl receiver ↔ Grammar.isIdentifier receiver = true ∧ receiver ∉ thunkLocals ∧
      receiver ∉ (decl.parameterNameFaults (idents decl) []).2 := by
  rw [mem_taken]
  constructor
  · intro usable
    refine ⟨usable.identifier, by simp [thunkLocals, usable.free], ?_⟩
    rintro (before | ⟨member, own⟩)
    · cases before
    · exact usable.own receiver member own rfl
  · rintro ⟨identifier, free, apart⟩
    refine ⟨identifier, by simpa [thunkLocals] using free, ?_⟩
    rintro ident member own rfl
    exact apart (.inr ⟨member, own⟩)

/-- The receiver is reported if it cannot be used; a static member has none. -/
theorem receiverFaults_eq (config : Config) (decl : Declaration) :
    decl.receiverFaults (decl.receiverName config.receiverName)
        (decl.parameterNameFaults (idents decl) []).2 =
      if decl.isStatic = false ∧ ¬UsableReceiver decl (receiverOf config decl) then
        [.invalidName decl "receiver name" (receiverOf config decl)] else [] := by
  cases bound : decl.isStatic with
  | true => simp [Declaration.receiverName, Declaration.receiverFaults, bound]
  | false =>
    have name : decl.receiverName config.receiverName = some (receiverOf config decl) := by
      simp [Declaration.receiverName, bound, receiverOf]
    rw [name, Declaration.receiverFaults]
    by_cases usable : UsableReceiver decl (receiverOf config decl)
    · obtain ⟨identifier, free, apart⟩ := usableReceiver_iff.mp usable
      simp [identifier, free, apart, usable]
    · have refused := mt usableReceiver_iff.mpr usable
      have broken : (!Grammar.isIdentifier (receiverOf config decl) ||
          receiverOf config decl ∈ thunkLocals ||
          receiverOf config decl ∈ (decl.parameterNameFaults (idents decl) []).2) = true := by
        simp only [Bool.or_eq_true, Bool.not_eq_true', decide_eq_true_eq]
        grind
      simp only [broken, if_true, usable, not_false_eq_true, and_self]

/-- The parameters of a plan have the names that are judged. -/
theorem idents_planned (config : Config) (decl : Declaration) :
    (MemberPlan.ofDeclaration decl config).params.map (·.ident) = idents decl :=
  List.map_map

theorem Legal.usable (legal : Legal config decl) {parameter : PlannedParameter}
    (planned : parameter ∈ (MemberPlan.ofDeclaration decl config).params) :
    Usable parameter.ident :=
  legal.names _ (idents_planned config decl ▸ List.mem_map_of_mem planned)

/-! ## Values -/

/-- What is said about the values of a member: one diagnostic for every parameter that does not cross, in
the order of the parameters, and then one for a result that does not. -/
def valueFaults (decl : Declaration) : List Diagnostic :=
  (decl.params.filter isStuck).map (fun parameter =>
    .cannotPassByRef decl parameter.name parameter.mode.text parameter.type.display) ++
  (if isObject decl.ret then [.cannotBeReturned decl decl.ret.display] else [])

/-- The stage of the values reports what is said about them. -/
theorem crossingFaults_eq (decl : Declaration) : decl.crossingFaults = valueFaults decl := by
  have each (parameter : Parameter) : decl.parameterFault? parameter =
      if isStuck parameter then some (.cannotPassByRef decl parameter.name parameter.mode.text
        parameter.type.display) else none := by
    unfold Declaration.parameterFault? isStuck Crossing.violation? Crossing.strategy
      Crossing.ofParameter
    cases parameter.type <;> cases parameter.mode <;> rfl
  have result : ((Crossing.ofReturn decl.ret).violation? .result).isSome = isObject decl.ret := by
    unfold Crossing.violation? Crossing.strategy Crossing.ofReturn
    cases decl.ret <;> rfl
  have parameters (params : List Parameter) : params.filterMap decl.parameterFault? =
      (params.filter isStuck).map fun parameter =>
        .cannotPassByRef decl parameter.name parameter.mode.text parameter.type.display := by
    induction params with
    | nil => rfl
    | cons parameter rest ih =>
      rw [List.filterMap_cons, List.filter_cons, each, ih]
      cases isStuck parameter <;> rfl
  rw [Declaration.crossingFaults, parameters, result, valueFaults]

private theorem kindReasons_eq (decl : Declaration) :
    decl.kindReasons =
      (if decl.kind == .propertyGetter && !decl.params.isEmpty then
        ["must not take parameters"] else []) ++
      (if decl.kind == .propertyGetter && decl.ret.isUnit then
        ["must return a value"] else []) ++
      (if decl.kind == .propertySetter && decl.params.length == 1 &&
        decl.params.any (·.mode.isByRef) then ["must take its value by value"] else []) ++
      (if decl.kind == .propertySetter && decl.params.length != 1 then
        ["must take exactly one parameter"] else []) ++
      (if decl.kind == .propertySetter && !decl.ret.isUnit then
        ["must not return a value"] else []) := by
  unfold Declaration.kindReasons
  cases decl.kind with
  | method => rfl
  | propertyGetter =>
    cases decl.params.isEmpty <;> cases decl.ret.isUnit <;> rfl
  | propertySetter =>
    rcases decl.params with _ | ⟨value, _ | ⟨other, rest⟩⟩
    · cases decl.ret.isUnit <;> rfl
    · cases byRef : value.mode.isByRef <;> cases decl.ret.isUnit <;> simp [byRef]
    · cases decl.ret.isUnit <;> simp

private theorem signatureFaults_eq (decl : Declaration) :
    decl.signatureFaults = reports (signatureRules decl) := by
  have unit (type : TypeRef) : (type == .unit) = type.isUnit := by
    rw [Bool.eq_iff_iff, isUnit_iff, beq_iff_eq]
  have byRef (mode : PassMode) : (mode != .value) = mode.isByRef := by
    rw [Bool.eq_iff_iff, isByRef_iff, bne_iff_ne]
  have units : reports (decl.params.map fun parameter => ⟨parameter.type == .unit,
      .malformedSignature decl ("has a parameter '" ++ parameter.name ++ "' of type '()'")⟩) =
      decl.unitReasons.map (.malformedSignature decl) := by
    rw [reports_map, Declaration.unitReasons, List.map_map]
    simp only [unit]
    rfl
  have arity : decl.arityReasons.map (.malformedSignature decl) =
      reports [⟨12 < decl.nativeArity, .malformedSignature decl ("takes " ++
        toString decl.nativeArity ++ " native arguments; at most " ++
        toString maxNativeArity ++ " are supported")⟩] := by
    unfold Declaration.arityReasons maxNativeArity
    by_cases excess : 12 < decl.nativeArity <;> simp [excess]
  have result : (decl.ret != .unit) = !decl.ret.isUnit := by rw [bne, unit]
  rw [signatureRules, reports_append, units, Declaration.signatureFaults, List.map_append,
    List.map_append, arity, kindReasons_eq]
  simp only [unit, byRef, result, reports_cons, reports_nil, List.map_append, List.append_assoc,
    List.append_nil, apply_ite (List.map _), List.map_cons, List.map_nil, Declaration.nativeArity]
  rfl

private theorem parameterNameFaults_eq {earlier taken : List String}
    (same : ∀ name, Usable name → (name ∈ taken ↔ name ∈ earlier)) (names : List String) :
    (decl.parameterNameFaults names taken).1 = reports (parameterRules decl earlier names) := by
  induction names generalizing earlier taken with
  | nil => rfl
  | cons ident rest ih =>
    rw [parameterRules, reports_cons, reports_cons]
    rcases parameterNameFaults_cons decl ident rest taken with
      ⟨unusable, step⟩ | ⟨usable, known, step⟩ | ⟨usable, fresh, step⟩
    · have kept : ∀ name, Usable name → (name ∈ taken ↔ name ∈ earlier ++ [ident]) := by
        intro name usable
        rw [same name usable, List.mem_append, List.mem_singleton]
        have apart : name ≠ ident := fun same => unusable (same ▸ usable)
        simp [apart]
      rw [step, ih kept]
      simp [unusable]
    · have repeated := (same ident usable).mp known
      have kept : ∀ name, Usable name → (name ∈ taken ↔ name ∈ earlier ++ [ident]) := by
        intro name usable
        rw [same name usable, List.mem_append, List.mem_singleton]
        constructor
        · exact .inl
        · rintro (before | rfl)
          · exact before
          · exact repeated
      rw [step, ih kept]
      simp [usable, repeated]
    · have new := mt (same ident usable).mpr fresh
      have grown : ∀ name, Usable name → (name ∈ ident :: taken ↔ name ∈ earlier ++ [ident]) := by
        intro name usable
        rw [List.mem_cons, same name usable, List.mem_append, List.mem_singleton, or_comm]
      rw [step, ih grown]
      simp [usable, new]

private theorem nameFaults_eq (config : Config) (decl : Declaration) :
    decl.nameFaults (.ofDeclaration decl config) = reports (nameRules config decl) := by
  have symbols : (MemberPlan.ofDeclaration decl config).symbols =
    .ofDeclaration decl config.receiverName := rfl
  have parameters : (decl.parameterNameFaults (idents decl) []).1 =
      reports (parameterRules decl [] (idents decl)) := parameterNameFaults_eq (by simp) _
  have receiver := receiverFaults_eq config decl
  have paths := reports_map decl.typePaths (fun path => !Grammar.isType path)
    (Diagnostic.invalidName decl "type path")
  rw [Declaration.typePaths] at paths
  simp only [Declaration.nameFaults, idents_planned, symbols, MemberSymbols.ofDeclaration, receiver,
    parameters, nameRules, reports_append, reports_cons, reports_nil, paths, Declaration.typePaths,
    List.append_nil, decide_eq_true_eq, Bool.not_eq_true', List.append_assoc]
  cases Grammar.isIdentifier decl.functionName <;>
    cases Grammar.isIdentifier (slotName decl.entryPoint) <;> rfl

private theorem valueFaults_eq (config : Config) (decl : Declaration) :
    valueFaults decl = reports (rulesOf config decl .values) := by
  rw [rulesOf, reports_append, reports_map, reports_cons, reports_nil, List.append_nil, valueFaults]

/-- What a stage reports is told by its rules: one diagnostic for each that is broken, in their order. -/
theorem faultsOf_eq (config : Config) (decl : Declaration) (stage : Stage) :
    faultsOf config decl stage = reports (rulesOf config decl stage) := by
  cases stage with
  | generic =>
    rw [rulesOf, reports_cons, reports_nil, List.append_nil, faultsOf]
  | generated =>
    rw [rulesOf, reports_cons, reports_nil, List.append_nil, faultsOf]
    cases decl.generated <;> rfl
  | signature => exact signatureFaults_eq decl
  | names => exact nameFaults_eq config decl
  | values =>
    rw [faultsOf, crossingFaults_eq]
    exact valueFaults_eq config decl

/-! ## Judging -/

/-- The faults of a stage are the rules of that stage that the member breaks. -/
theorem mem_faultsOf (stage : Stage) :
    diagnostic ∈ faultsOf config decl stage ↔ Violates config decl stage diagnostic := by
  rw [faultsOf_eq]
  exact mem_rulesOf stage

private theorem faultsOf_eq_nil {stage : Stage} :
    faultsOf config decl stage = [] ↔ ∀ diagnostic, ¬Violates config decl stage diagnostic := by
  simp only [List.eq_nil_iff_forall_not_mem, mem_faultsOf]

/-- The attributes make up the first two stages, of which the later one is not entered if the earlier
one objects. -/
theorem attributeFaults_eq (config : Config) (decl : Declaration) : decl.attributeFaults =
    if faultsOf config decl .generic = [] then faultsOf config decl .generated
    else faultsOf config decl .generic := by
  unfold Declaration.attributeFaults
  cases generic : decl.generic <;> cases generated : decl.generated <;>
    simp [faultsOf, generic, generated]

private theorem attributeFaults_eq_nil : decl.attributeFaults = [] ↔
    faultsOf config decl .generic = [] ∧ faultsOf config decl .generated = [] := by
  rw [attributeFaults_eq config]
  split <;> simp [*]

/-- A stage that reports something, behind stages that report nothing. -/
structure First (config : Config) (decl : Declaration) (stage : Stage) : Prop where
  silent : ∀ earlier : Stage, earlier.rank < stage.rank → faultsOf config decl earlier = []
  found : faultsOf config decl stage ≠ []

/-- A member is refused with all faults of the first stage that has any. -/
theorem first_of_refused {faults : List Diagnostic} (refused : Refused config decl faults) :
    ∃ stage, First config decl stage ∧ faults = faultsOf config decl stage := by
  cases refused with
  | attributes found =>
    rw [attributeFaults_eq config] at found ⊢
    by_cases concrete : faultsOf config decl .generic = []
    · rw [if_pos concrete] at found ⊢
      refine ⟨.generated, ⟨fun earlier before => ?_, found⟩, rfl⟩
      cases earlier <;> first | exact concrete | simp [Stage.rank] at before
    · rw [if_neg concrete]
      exact ⟨.generic, ⟨fun earlier before => absurd before (Nat.not_lt_zero _), concrete⟩, rfl⟩
  | signature attributes found =>
    obtain ⟨concrete, marked⟩ := attributeFaults_eq_nil.mp attributes
    refine ⟨.signature, ⟨fun earlier before => ?_, found⟩, rfl⟩
    cases earlier <;> first | assumption | simp [Stage.rank] at before
  | names attributes signature found =>
    obtain ⟨concrete, marked⟩ := attributeFaults_eq_nil.mp attributes
    refine ⟨.names, ⟨fun earlier before => ?_, found⟩, rfl⟩
    cases earlier <;> first | assumption | simp [Stage.rank] at before
  | crossings attributes signature names found =>
    obtain ⟨concrete, marked⟩ := attributeFaults_eq_nil.mp attributes
    refine ⟨.values, ⟨fun earlier before => ?_, found⟩, rfl⟩
    cases earlier <;> first | assumption | simp [Stage.rank] at before

/-- A member passes if no stage has a fault. -/
theorem passed_iff : Passed config decl ↔ ∀ stage, faultsOf config decl stage = [] := by
  constructor
  · intro passed stage
    obtain ⟨concrete, marked⟩ := attributeFaults_eq_nil.mp passed.attributes
    cases stage with
    | generic => exact concrete
    | generated => exact marked
    | signature => exact passed.signature
    | names => exact passed.names
    | values => exact passed.crossings
  · intro silent
    exact ⟨attributeFaults_eq_nil.mpr ⟨silent .generic, silent .generated⟩, silent .signature,
      silent .names, silent .values⟩

theorem passed_iff_legal : Passed config decl ↔ Legal config decl := by
  simp only [passed_iff, faultsOf_eq_nil, legal_iff]

/-- Where the earlier stages are silent, the values decide. -/
theorem plan_of_silent
    (silent : ∀ stage : Stage, stage.rank < Stage.values.rank → faultsOf config decl stage = []) :
    decl.plan config =
      if valueFaults decl = [] then .ok (.ofDeclaration decl config) else .error (valueFaults decl) := by
  have attributes : decl.attributeFaults = [] :=
    attributeFaults_eq_nil.mpr ⟨silent .generic (by decide), silent .generated (by decide)⟩
  have signature : decl.signatureFaults = [] := silent .signature (by decide)
  have names : decl.nameFaults (.ofDeclaration decl config) = [] := silent .names (by decide)
  simp [Declaration.plan, attributes, signature, names, crossingFaults_eq]

/-- A member is planned exactly if it is legal. Otherwise it breaks rules of one stage and of no
earlier one, and exactly the diagnostics for those rules are reported, once for each rule and in the
order of the rules, and of kinds that belong to no other stage. Where only the values can be at fault,
there is one diagnostic for every text or object that a parameter passes by reference, in the order of
the parameters, and behind them one for a returned object. -/
theorem plan_iff_legal (config : Config) (decl : Declaration) :
    ((∃ plan, decl.plan config = .ok plan) ↔ Legal config decl) ∧
    (∀ faults, decl.plan config = .error faults → faults ≠ [] ∧ ∃ stage,
      (∀ earlier : Stage, earlier.rank < stage.rank →
        ∀ diagnostic, ¬Violates config decl earlier diagnostic) ∧
      faults = reports (rulesOf config decl stage) ∧
      (∀ diagnostic, diagnostic ∈ faults ↔ Violates config decl stage diagnostic) ∧
      ∀ diagnostic ∈ faults, stageOf diagnostic.kind = some stage) ∧
    ((∀ earlier : Stage, earlier.rank < Stage.values.rank →
        ∀ diagnostic, ¬Violates config decl earlier diagnostic) →
      decl.plan config = if valueFaults decl = [] then .ok (.ofDeclaration decl config)
        else .error (valueFaults decl)) ∧
    (valueFaults decl).map (·.kind.code) =
      (decl.params.filter isStuck).map (fun _ => "BG0007") ++
        if isObject decl.ret then ["BG0008"] else [] := by
  refine ⟨?accepted, ?refused, ?values, ?codes⟩
  case accepted =>
    rw [← passed_iff_legal]
    constructor
    · rintro ⟨plan, planned⟩
      exact (plan_ok planned).1
    · intro passed
      rcases plan_cases config decl with ⟨_, planned⟩ | ⟨faults, refused, _⟩
      · exact ⟨_, planned⟩
      · exact absurd refused passed.not_refused
  case refused =>
    intro faults failed
    have refused := plan_error failed
    obtain ⟨stage, first, rfl⟩ := first_of_refused refused
    refine ⟨first.found, stage, ?_, faultsOf_eq config decl stage, fun _ => mem_faultsOf stage, ?_⟩
    · intro earlier before
      exact faultsOf_eq_nil.mp (first.silent earlier before)
    · intro diagnostic member
      exact stage_of_violates ((mem_faultsOf stage).mp member)
  case values =>
    intro silent
    exact plan_of_silent fun stage before => faultsOf_eq_nil.mpr (silent stage before)
  case codes =>
    rw [valueFaults, List.map_append, List.map_map]
    congr 1
    split <;> rfl

/-- A text by reference, an object by reference and a returned object are three faults, and the member
is not legal. With all three by value and no result it is. -/
theorem plan_iff_legal_attach :
    let attach := { Declaration.method Samples.camera "Attach" with
      params := [{ name := "label", type := .str false },
        { name := "target", type := .nativeObject "engine::Camera" false }] }
    let byReference := { attach with
      params := [{ name := "label", type := .str false, mode := .ref },
        { name := "target", type := .nativeObject "engine::Camera" false, mode := .in }]
      ret := .nativeObject "engine::Camera" true }
    Legal {} attach ∧ ¬Legal {} byReference ∧
      byReference.plan {} = .error (valueFaults byReference) ∧
      (valueFaults byReference).map (·.kind.code) = ["BG0007", "BG0007", "BG0008"] := by
  intro attach byReference
  have planned : attach.plan {} = .ok (.ofDeclaration attach {}) := by decide +kernel
  have failed : byReference.plan {} = .error (valueFaults byReference) := by decide +kernel
  obtain ⟨accepted, _, _, _⟩ := plan_iff_legal {} attach
  obtain ⟨refused, _, _, codes⟩ := plan_iff_legal {} byReference
  refine ⟨accepted.mp ⟨_, planned⟩, fun legal => ?_, failed, codes⟩
  obtain ⟨plan, planned⟩ := refused.mpr legal
  rw [failed] at planned
  cases planned

end NativeThunks.LegalMembers
