import NativeThunks.Proofs.CallPositions

/-! The body of a thunk as statements. Its lines are texts; here every line is a statement that says which
names it declares, reads and gives a value to, and which parameter it is for. The statements of a body
are put together from the parameters of the member alone, and their lines are the body. -/
namespace NativeThunks.BodyStatements
open CallPositions WrapperTables

/-- A value in the body of a thunk: a constant, or a text about one name. -/
inductive Value where
  | constant (text : String)
  | about (front name behind : String)
deriving DecidableEq, Repr

namespace Value

/-- The text of a value. -/
def text : Value → String
  | .constant text => text
  | .about front name behind => front ++ name ++ behind

/-- The names that a value reads. -/
def names : Value → List String
  | .constant _ => []
  | .about _ name _ => [name]

end Value

/-- What becomes of the value of a native call. -/
inductive Destination where
  | dropped
  | assigned (name : String)
  | declared (name : String)
deriving DecidableEq, Repr

/-- What stands in front of a native call. -/
def Destination.text : Destination → String
  | .dropped => ""
  | .assigned name => name ++ " = "
  | .declared name => "let " ++ name ++ " = "

/-- A statement in the body of a thunk. -/
inductive Statement where
  | opening
  | closing
  | declare (mutable : Bool) (name : String) (type : Option String) (value : Option Value)
  | call (destination : Destination) (arguments : List Value)
  /-- The place behind a reference gets a value. -/
  | store (reference : String) (value : Value)
  /-- The value of the function. -/
  | answer (value : Value)
deriving DecidableEq, Repr

namespace Statement

/-- The line of a statement. -/
def line : Statement → Line
  | .opening => .opening "\x7b"
  | .closing => .closing
  | .declare mutable name type value => .text
    ((if mutable then "let mut " else "let ") ++ name ++ ((type.map (": " ++ ·)).getD "") ++
      ((value.map (" = " ++ ·.text)).getD "") ++ ";")
  | .call destination arguments => .text (destination.text ++
      ("unsafe \x7b __native(" ++ ", ".intercalate (arguments.map Value.text) ++ ") \x7d") ++ ";")
  | .store reference value => .text ("*" ++ reference ++ " = " ++ value.text ++ ";")
  | .answer value => .text value.text

example : (declare true "__hit_native" (some "i32") (some (.constant "0"))).line =
    .text "let mut __hit_native: i32 = 0;" := by decide +kernel

/-- The locals that a statement declares. -/
def declares : Statement → List String
  | .declare _ name _ _ | .call (.declared name) _ => [name]
  | _ => []

/-- The locals that a statement gives a value to. -/
def assigns : Statement → List String
  | .declare _ name _ (some _) | .call (.assigned name) _ | .call (.declared name) _ => [name]
  | _ => []

/-- The references whose places a statement gives a value to. -/
def stores : Statement → List String
  | .store reference _ => [reference]
  | _ => []

/-- The names that a statement reads, as they are spelled: `r#__result` and `__result` are two. -/
def reads : Statement → List String
  | .declare _ _ _ (some value) | .answer value => value.names
  | .call _ arguments => "__native" :: arguments.flatMap Value.names
  | .store reference value => reference :: value.names
  | _ => []

end Statement

/-- The name that the native function gets a parameter by: its local, or itself. -/
def bound (parameter : PlannedParameter) : String :=
  (parameter.crossing.localName? parameter.ident).getD parameter.ident

/-- Whether the native function writes the truth value of a parameter. -/
def isWrittenBack (parameter : PlannedParameter) : Bool :=
  parameter.crossing.type = .bool &&
    (parameter.crossing.mode = .ref || parameter.crossing.mode = .out)

/-- The declaration of the local for a parameter, if it has one. -/
def declaration? (parameter : PlannedParameter) (runtime : String) : Option Statement :=
  let pointer (kind macroName : String) : Statement :=
    .declare false (bound parameter) (some ("*" ++ kind ++ " " ++ parameter.crossing.type.spelling))
      (some (.about ("::core::ptr::" ++ macroName ++ "!(*") parameter.ident ")"))
  let native (mutable : Bool) (front : String) : Statement :=
    .declare mutable (bound parameter) (some "i32")
      (some (.about (runtime ++ "::bool_to_native(" ++ front) parameter.ident ")"))
  let handle (function behind : String) : Statement :=
    .declare false (bound parameter) none
      (some (.about (runtime ++ "::" ++ function ++ "(") parameter.ident (behind ++ ")")))
  match parameter.crossing.strategy with
  | .default =>
    match parameter.crossing.mode with
    | .value => none
    | .ref | .out => some (pointer "mut" "addr_of_mut")
    | .in => some (pointer "const" "addr_of")
  | .boolean =>
    match parameter.crossing.mode with
    | .value => some (native false "")
    | .ref => some (native true "*")
    | .out => some (.declare true (bound parameter) (some "i32") (some (.constant "0")))
    | .in => some (native false "*")
  | .stringHandle =>
    some (handle "NativeString::new" (if parameter.crossing.type = .str true then ".as_str()" else ""))
  | .nativeHandleObject true => some (handle "nullable_handle_ptr" "")
  | .nativeHandleObject false =>
    some (handle "handle_ptr" (", \"" ++ Naming.stem parameter.ident ++ "\""))

/-- The statements for a parameter in front of the call: a block begins, and a local is declared. -/
def beginParameter (runtime : String) (parameter : PlannedParameter) : List Statement :=
  (if parameter.crossing.opensScope then [.opening] else []) ++
    (declaration? parameter runtime).toList

/-- The statements for a parameter behind the call: a truth value is written back, and a block ends. -/
def endParameter (runtime : String) (parameter : PlannedParameter) : List Statement :=
  (if isWrittenBack parameter then
    [.store parameter.ident (.about (runtime ++ "::bool_from_native(") (bound parameter) ")")]
    else []) ++
  (if parameter.crossing.opensScope then [.closing] else [])

theorem beforeCall_lines (parameter : PlannedParameter) (runtime : String) :
    (parameter.crossing.beforeCall parameter.ident runtime).1 =
      (beginParameter runtime parameter).map Statement.line := by
  unfold beginParameter declaration? Crossing.beforeCall Crossing.opensScope
  rw [← bound]
  cases parameter.crossing.strategy with
  | default =>
    cases parameter.crossing.mode <;>
      simp [Statement.line, Value.text, PassMode.isByRef, ← String.toList_inj]
  | boolean =>
    cases parameter.crossing.mode <;>
      simp [Statement.line, Value.text, ← String.toList_inj]
  | stringHandle =>
    dsimp only
    split
    · rename_i owned
      simp [owned, Statement.line, Value.text, ← String.toList_inj]
    · rename_i other
      have borrowed : parameter.crossing.type ≠ .str true := other
      simp [borrowed, Statement.line, Value.text, ← String.toList_inj]
  | nativeHandleObject nullable =>
    cases nullable <;> simp [Statement.line, Value.text, ← String.toList_inj]

private theorem afterCall_lines (parameter : PlannedParameter) (runtime : String) :
    parameter.crossing.afterCall parameter.ident runtime =
      (endParameter runtime parameter).map Statement.line := by
  obtain ⟨ident, type, mode⟩ := parameter
  unfold endParameter isWrittenBack bound Crossing.afterCall Crossing.localName? Crossing.localEnding
    Crossing.opensScope Crossing.strategy
  cases type <;> cases mode <;>
    simp [Strategy.ofShape, TypeRef.shape, PassMode.isByRef, Statement.line, Value.text,
      ← String.toList_inj]

/-- The value that the native function gets for a parameter. -/
def passedValue (parameter : PlannedParameter) : Value :=
  match parameter.crossing.strategy with
  | .boolean =>
    match parameter.crossing.mode with
    | .value => .about "" (bound parameter) ""
    | .ref | .out => .about "::core::ptr::addr_of_mut!(" (bound parameter) ")"
    | .in => .about "::core::ptr::addr_of!(" (bound parameter) ")"
  | .stringHandle => .about "" (bound parameter) ".as_ptr()"
  | .default | .nativeHandleObject _ => .about "" (bound parameter) ""

private theorem beforeCall_value (parameter : PlannedParameter) (runtime : String) :
    (parameter.crossing.beforeCall parameter.ident runtime).2 = (passedValue parameter).text := by
  unfold Crossing.beforeCall passedValue
  rw [← bound]
  cases strategy : parameter.crossing.strategy with
  | default =>
    cases mode : parameter.crossing.mode with
    | value =>
      simp [Value.text, bound, Crossing.localName?, Crossing.localEnding, strategy, mode,
        PassMode.isByRef]
    | _ => simp [Value.text]
  | boolean => cases parameter.crossing.mode <;> simp [Value.text]
  | stringHandle => simp [Value.text]
  | nativeHandleObject nullable => cases nullable <;> simp [Value.text]

/-- A value inside a text. -/
def Value.within (front behind : String) : Value → Value
  | .constant text => .constant (front ++ text ++ behind)
  | .about before name after => .about (front ++ before) name (after ++ behind)

/-- A value as it is passed beside the wrappers of a table. -/
def carriedValue (config : Config) (table : WrapperTable) (type : NativeType) (value : Value) :
    Value :=
  if config.wrapScalars && type.scalar then
    value.within ((table.intern type.text).1 ++ "::from(") ")"
  else value

/-- The values that the native function gets: the pointer of the object, and the parameters. -/
def callValues (config : Config) (table : WrapperTable) (plan : MemberPlan) : List Value :=
  (plan.symbols.receiver.toList.map fun receiver =>
    carriedValue config table ⟨opaquePointer, true⟩ (.about "" receiver "")) ++
  plan.params.map fun parameter =>
    carriedValue config table parameter.crossing.nativeType (passedValue parameter)

/-- What becomes of the value of the native call. -/
def destination (plan : MemberPlan) : Destination :=
  if plan.hasResult then
    if plan.isScoped then .assigned "__result" else .declared "__result"
  else .dropped

/-- The native call. -/
def callOf (plan : MemberPlan) (arguments : List Value) : Statement :=
  .call (destination plan) arguments

/-- The value of the function. -/
def answerOf (plan : MemberPlan) (runtime : String) : Value :=
  match plan.ret.strategy with
  | .boolean => .about (runtime ++ "::bool_from_native(") "__result" ")"
  | .stringHandle => .about ("unsafe \x7b " ++ runtime ++ "::NativeString::take(") "__result" ") \x7d"
  | .default | .nativeHandleObject _ => .about "" "__result" ""

/-- The native function and the pointer of the object. -/
def lookups (plan : MemberPlan) (runtime : String) : List Statement :=
  .declare false "__native" none
      (some (.about "" plan.symbols.slot (".get_or_resolve(\"" ++ plan.symbols.entryPoint ++ "\")"))) ::
    plan.symbols.receiver.toList.map fun receiver =>
      .declare false receiver none
        (some (.about (runtime ++ "::handle_ptr(") "self" ", \"self\")"))

/-- The statements in front of those for the parameters. A result that outlives blocks is declared
here. -/
def preamble (plan : MemberPlan) (runtime : String) : List Statement :=
  lookups plan runtime ++
    if plan.hasResult && plan.isScoped then [.declare false "__result" none none] else []

/-- The value of the function, if it has one. -/
def ending (plan : MemberPlan) (runtime : String) : List Statement :=
  if plan.hasResult then [.answer (answerOf plan runtime)] else []

/-- The statements in front of the native call. -/
def leading (plan : MemberPlan) (runtime : String) : List Statement :=
  preamble plan runtime ++ plan.params.flatMap (beginParameter runtime)

/-- The statements behind the native call. -/
def trailing (plan : MemberPlan) (runtime : String) : List Statement :=
  plan.params.reverse.flatMap (endParameter runtime) ++ ending plan runtime

/-- The body of a function. -/
def statements (plan : MemberPlan) (runtime : String) (arguments : List Value) : List Statement :=
  leading plan runtime ++ callOf plan arguments :: trailing plan runtime

private theorem preamble_lines (plan : MemberPlan) (runtime : String) :
    (preamble plan runtime).map Statement.line =
      [.text ("let __native = " ++ plan.symbols.slot ++ ".get_or_resolve(\"" ++
        plan.symbols.entryPoint ++ "\");")] ++
      (plan.symbols.receiver.toList.map fun receiver =>
        .text ("let " ++ receiver ++ " = " ++ runtime ++ "::handle_ptr(self, \"self\");")) ++
      if plan.hasResult && plan.isScoped then [.text "let __result;"] else [] := by
  unfold preamble lookups
  cases plan.symbols.receiver <;> split <;>
    simp [Statement.line, Value.text, ← String.toList_inj]

private theorem ending_lines (plan : MemberPlan) (runtime : String) :
    (ending plan runtime).map Statement.line =
      if plan.hasResult then [.text (plan.ret.unmarshal "__result" runtime)] else [] := by
  unfold ending answerOf Crossing.unmarshal
  split
  · cases plan.ret.strategy <;> simp [Statement.line, Value.text]
  · rfl

private theorem callOf_line (plan : MemberPlan) (arguments : List Value) :
    (callOf plan arguments).line = .text ((if plan.hasResult then
      if plan.isScoped then "__result = " else "let __result = " else "") ++
        ("unsafe \x7b __native(" ++ ", ".intercalate (arguments.map Value.text) ++ ") \x7d") ++ ";") := by
  unfold callOf destination
  cases plan.hasResult <;> cases plan.isScoped <;> rfl

/-- The lines of a body are those of its statements. -/
theorem body_lines (plan : MemberPlan) (runtime : String) {written : List WrittenArgument}
    {arguments : List Value} (same : written.map (·.expression) = arguments.map Value.text) :
    plan.body runtime written = (statements plan runtime arguments).map Statement.line := by
  have begins : plan.params.flatMap (fun parameter =>
      (parameter.crossing.beforeCall parameter.ident runtime).1) =
      (plan.params.flatMap (beginParameter runtime)).map Statement.line := by
    simp only [beforeCall_lines, List.map_flatMap]
  have ends : plan.params.reverse.flatMap (fun parameter =>
      parameter.crossing.afterCall parameter.ident runtime) =
      (plan.params.reverse.flatMap (endParameter runtime)).map Statement.line := by
    simp only [afterCall_lines, List.map_flatMap]
  have regroup (lookup object result begins : List Line) (call : Line) (ends value : List Line) :
      lookup ++ object ++ result ++ begins ++ [call] ++ ends ++ value =
        lookup ++ object ++ result ++ begins ++ call :: (ends ++ value) := by simp
  rw [statements, leading, trailing, List.map_append, List.map_append, List.map_cons,
    List.map_append, preamble_lines, ending_lines, callOf_line, ← begins, ← ends, ← same,
    ← regroup, MemberPlan.body]
  cases plan.symbols.receiver <;> rfl

private theorem carriedValue_text (config : Config) (table : WrapperTable) (type : NativeType)
    (value : Value) : (carried config table ⟨type, value.text⟩).expression =
      (carriedValue config table type value).text := by
  unfold carried carriedValue
  split
  · cases value <;> simp [Value.within, Value.text, String.append_assoc]
  · rfl

/-- The arguments of the native call are written as its values. -/
theorem callValues_text (config : Config) (table : WrapperTable) (plan : MemberPlan) :
    ((plan.nativeArguments config.runtimePath).map (carried config table)).map (·.expression) =
      (callValues config table plan).map Value.text := by
  have self (receiver : String) : receiver = (Value.about "" receiver "").text := by
    simp [Value.text]
  have params : plan.params.map (fun parameter => (carried config table
      ⟨parameter.crossing.nativeType,
        (parameter.crossing.beforeCall parameter.ident config.runtimePath).2⟩).expression) =
      (plan.params.map fun parameter =>
        carriedValue config table parameter.crossing.nativeType (passedValue parameter)).map
          Value.text := by
    simp only [List.map_map, Function.comp_def, beforeCall_value, carriedValue_text]
  have object (receiver : String) : (carried config table ⟨⟨opaquePointer, true⟩, receiver⟩).expression
      = (carriedValue config table ⟨opaquePointer, true⟩ (.about "" receiver "")).text := by
    rw [← carriedValue_text, ← self]
  rw [MemberPlan.nativeArguments, callValues, List.map_append, List.map_append, List.map_append,
    List.map_map, List.map_map, ← params]
  cases plan.symbols.receiver with
  | none => simp [Function.comp_def]
  | some receiver => simp [object, Function.comp_def]

/-- The ends that the names of locals have. -/
def localEndings : List String := ["_ptr", "_native", "_handle"]

/-- The letters of a local's name. -/
theorem localName_split {crossing : Crossing} {name text : String}
    (named : crossing.localName? name = some text) : ∃ ending ∈ localEndings,
      text.toList = '_' :: '_' :: ((Naming.stem name).toList ++ ending.toList) := by
  obtain ⟨ending, given, rfl⟩ := Option.map_eq_some_iff.mp named
  refine ⟨ending, ?_, by simp⟩
  unfold Crossing.localEnding at given
  cases strategy : crossing.strategy <;> simp only [strategy] at given
  case default =>
    split at given
    · exact Option.some.inj given ▸ by decide
    · cases given
  all_goals exact Option.some.inj given ▸ by decide

theorem ending_suffix {text : String} {word ending : List Char}
    (spelled : text.toList = '_' :: '_' :: (word ++ ending)) : ending <:+ text.toList :=
  ⟨'_' :: '_' :: word, by simp [spelled]⟩

/-- No parameter has a local that every thunk has. The ending of one of them is there, but no room for the
underscores in front. -/
theorem localName_notMem_thunkLocals {crossing : Crossing} {name text : String}
    (named : crossing.localName? name = some text) : text ∉ thunkLocals := by
  obtain ⟨ending, member, spelled⟩ := localName_split named
  have narrow : ∀ ending ∈ localEndings, ∀ text ∈ thunkLocals, ending.toList <:+ text.toList →
      text.toList.length < ending.toList.length + 2 := by decide
  intro reserved
  have short := narrow ending member text reserved (ending_suffix spelled)
  rw [spelled] at short
  simp at short

/-- A parameter with a local has a declaration of it, with a value; no other parameter has one. -/
theorem declaration_cases (parameter : PlannedParameter) (runtime : String) :
    (parameter.crossing.localName? parameter.ident = none ∧ declaration? parameter runtime = none) ∨
      ∃ mutable name type value, parameter.crossing.localName? parameter.ident = some name ∧
        declaration? parameter runtime = some (.declare mutable name type (some value)) ∧
        ∀ read ∈ value.names, read = parameter.ident := by
  unfold declaration? bound Crossing.localName? Crossing.localEnding
  cases parameter.crossing.strategy with
  | default =>
    cases parameter.crossing.mode <;> simp [PassMode.isByRef, Value.names]
  | boolean => cases parameter.crossing.mode <;> simp [Value.names]
  | stringHandle => simp [Value.names]
  | nativeHandleObject nullable => cases nullable <;> simp [Value.names]

/-- The local of a parameter is declared for it, and nothing else is. -/
theorem beginParameter_declares (runtime : String) (parameter : PlannedParameter) :
    (beginParameter runtime parameter).flatMap Statement.declares =
      (parameter.crossing.localName? parameter.ident).toList := by
  unfold beginParameter
  rcases declaration_cases parameter runtime with
    ⟨named, declared⟩ | ⟨_, _, _, _, named, declared, _⟩
  all_goals
    rw [named, declared]
    cases parameter.crossing.opensScope <;> rfl

/-- The statements for a parameter in front of the call read the parameter, and give a value to its
local. -/
theorem beginParameter_names (runtime : String) (parameter : PlannedParameter) :
    (∀ name ∈ (beginParameter runtime parameter).flatMap Statement.reads, name = parameter.ident) ∧
      (∀ name ∈ (beginParameter runtime parameter).flatMap Statement.assigns,
        parameter.crossing.localName? parameter.ident = some name) ∧
      (beginParameter runtime parameter).flatMap Statement.stores = [] := by
  unfold beginParameter
  rcases declaration_cases parameter runtime with
    ⟨_, declared⟩ | ⟨_, _, _, _, named, declared, reads⟩
  · rw [declared]
    cases parameter.crossing.opensScope <;>
      simp [Statement.reads, Statement.assigns, Statement.stores]
  · rw [declared]
    cases parameter.crossing.opensScope <;>
      simpa [Statement.reads, Statement.assigns, Statement.stores, named] using reads

/-- The statements for a parameter behind the call read the parameter and its local, and write the
parameter if it is to be written. -/
theorem endParameter_names (runtime : String) (parameter : PlannedParameter) :
    (endParameter runtime parameter).flatMap Statement.declares = [] ∧
      (∀ name ∈ (endParameter runtime parameter).flatMap Statement.reads,
        name = parameter.ident ∨ name = bound parameter) ∧
      (endParameter runtime parameter).flatMap Statement.assigns = [] ∧
      (endParameter runtime parameter).flatMap Statement.stores =
        if isWrittenBack parameter then [parameter.ident] else [] := by
  unfold endParameter
  cases isWrittenBack parameter <;> cases parameter.crossing.opensScope <;>
    simp [Statement.declares, Statement.reads, Statement.assigns, Statement.stores, Value.names]

/-- The native call reads the receiver and what stands for the parameters. -/
theorem callValues_names (config : Config) (table : WrapperTable) (plan : MemberPlan) :
    (callValues config table plan).flatMap Value.names =
      plan.symbols.receiver.toList ++ plan.params.map bound := by
  have carried (type : NativeType) (value : Value) :
      (carriedValue config table type value).names = value.names := by
    unfold carriedValue
    split <;> cases value <;> rfl
  have passed (parameter : PlannedParameter) : (passedValue parameter).names = [bound parameter] := by
    unfold passedValue
    cases parameter.crossing.strategy <;> cases parameter.crossing.mode <;> rfl
  rw [callValues, List.flatMap_append, List.flatMap_map, List.flatMap_map, List.map_eq_flatMap]
  simp only [carried, passed]
  cases plan.symbols.receiver <;> rfl

end NativeThunks.BodyStatements
