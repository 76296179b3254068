import NativeThunks.Proofs.BlockDepth
import NativeThunks.Proofs.HelperLocals
import NativeThunks.Proofs.UnitWriters
import NativeThunks.Proofs.WrapperNumbering

/-! Lines that look like what they are. Every line of generated code has words of its own at both ends, so
whatever is copied in between, it neither begins nor ends a block by accident, and begins with no white
space; only a line feed would make two lines of it. The line that answers a converted truth value is the
one exception: it begins with the path of the run-time pieces, as it is configured. -/
namespace NativeThunks.TidyLines
open BlockDepth HelperLocals Text UnitWriters WrapperNumbering
open CallPositions (carried)

variable {config : Config} {container : Container} {nativeType name runtime : String}
  {plan : MemberPlan}

/-- A text without a line feed. -/
def OneLine (text : String) : Prop := '\n' ∉ text.toList

instance (text : String) : Decidable (OneLine text) :=
  inferInstanceAs (Decidable ('\n' ∉ text.toList))

@[simp] theorem oneLine_append (first second : String) :
    OneLine (first ++ second) ↔ OneLine first ∧ OneLine second := by
  simp [OneLine]

private theorem oneLine_intercalate {texts : List String} (flat : ∀ text ∈ texts, OneLine text) :
    OneLine (", ".intercalate texts) := by
  have separator : OneLine ", " := by decide
  induction texts with
  | nil => decide
  | cons first rest ih =>
    obtain ⟨here, later⟩ := List.forall_mem_cons.mp flat
    cases rest with
    | nil => rwa [String.intercalate_singleton]
    | cons next rest =>
      rw [String.intercalate_cons_cons, oneLine_append, oneLine_append]
      exact ⟨⟨here, separator⟩, ih later⟩

private theorem oneLine_stem (flat : OneLine name) : OneLine (Naming.stem name) :=
  fun member => flat (stem_subset name member)

theorem oneLine_wrapperName (index : Nat) : OneLine (wrapperName index) := by
  rw [wrapperName, oneLine_append]
  exact ⟨by decide, UnitHeader.lineFeed_notMem_toString index⟩

/-- A type whose paths have no line feed in them. -/
def FlatType (type : TypeRef) : Prop := ∀ path ∈ type.paths, OneLine path

theorem FlatType.spelling {type : TypeRef} (flat : FlatType type) : OneLine type.spelling := by
  cases type with
  | unit => decide
  | primitive name => cases name <;> decide
  | bool => decide
  | str owned => cases owned <;> decide
  | pointer pointee mutable =>
    have path := flat pointee List.mem_cons_self
    cases mutable <;> simp +decide [TypeRef.spelling, path]
  | enum path | fnPointer path | nativeObject path | named path => exact flat path List.mem_cons_self

section
variable {crossing : Crossing} (flat : FlatType crossing.type)
include flat

private theorem oneLine_nativeType : OneLine crossing.nativeType.text := by
  have bare := flat.spelling
  have pointer : OneLine opaquePointer := by decide
  unfold Crossing.nativeType
  cases crossing.strategy <;> cases crossing.mode <;> simp +decide [bare, pointer]

private theorem oneLine_managedType : OneLine crossing.managedType := by
  have bare := flat.spelling
  obtain ⟨type, mode⟩ := crossing
  have referred : ∀ {text}, OneLine text → OneLine ("&mut " ++ text) ∧ OneLine ("&" ++ text) := by
    intro text flat
    simp +decide [flat]
  unfold Crossing.managedType
  cases type with
  | nativeObject path nullable =>
    have path : OneLine path := bare
    cases nullable <;> cases mode <;> simp +decide [path]
  | _ => cases mode <;> simp +decide [bare]

private theorem oneLine_managedReturnType : OneLine crossing.managedReturnType := by
  have bare := flat.spelling
  have text : OneLine "::std::string::String" := by decide
  obtain ⟨type, mode⟩ := crossing
  cases type with
  | str owned => exact text
  | _ => exact bare

end

/-- A text whose first character is a given one. -/
def Begins (first : Char) (text : String) : Prop := text.toList.head? = some first

/-- A text whose last character is a given one. -/
def Ends (last : Char) (text : String) : Prop := text.toList.getLast? = some last

instance (first : Char) (text : String) : Decidable (Begins first text) :=
  inferInstanceAs (Decidable (text.toList.head? = some first))

instance (last : Char) (text : String) : Decidable (Ends last text) :=
  inferInstanceAs (Decidable (text.toList.getLast? = some last))

@[simp] theorem begins_append {first : Char} {front behind : String} (filled : front ≠ "") :
    Begins first (front ++ behind) ↔ Begins first front := by
  have letters : front.toList ≠ [] := by simpa using filled
  rw [Begins, String.toList_append, List.head?_append_of_ne_nil _ letters, Begins]

@[simp] theorem ends_append {last : Char} {front behind : String} (filled : behind ≠ "") :
    Ends last (front ++ behind) ↔ Ends last behind := by
  have letters : behind.toList ≠ [] := by simpa using filled
  rw [Ends, String.toList_append, List.getLast?_append_of_ne_nil _ letters, Ends]

/-- A text of one line between two characters. -/
def Framed (first last : Char) (text : String) : Prop :=
  OneLine text ∧ Begins first text ∧ Ends last text

instance (first last : Char) (text : String) : Decidable (Framed first last text) :=
  inferInstanceAs (Decidable (OneLine text ∧ Begins first text ∧ Ends last text))

/-- A line of the text that looks like what it is, and begins with no white space. -/
structure Tidy (line : Line) : Prop where
  unbroken : Unbroken line
  legible : Legible line
  flush : leadsBlank (contentOf line) = false

theorem tidy_blank : Tidy .blank := ⟨List.not_mem_nil, trivial, rfl⟩

theorem tidy_closing : Tidy .closing := ⟨by simp [Unbroken, contentOf], trivial, by decide⟩

section
variable {content : String}

/-- The first and the last character of a statement tell that it neither begins nor ends a block. -/
theorem tidy_statement (first last : Char) (framed : Framed first last content)
    (plain : isWhiteSpace first = false ∧ first ≠ ' ' ∧ first ≠ '\x7d' ∧ last ≠ '\x7b') :
    Tidy (.text content) := by
  obtain ⟨flat, begins, ends⟩ := framed
  obtain ⟨visible, flush, outside, behind⟩ := plain
  have found : content.toList.head? = some first := begins
  refine ⟨flat, ⟨opens_of_getLast ends behind, closes_of_head begins flush outside⟩, ?_⟩
  simp [leadsBlank, contentOf, found, visible]

private theorem tidy_let (framed : Framed 'l' ';' content) : Tidy (.text content) :=
  tidy_statement 'l' ';' framed (by decide)

private theorem tidy_attribute (framed : Framed '#' ']' content) : Tidy (.text content) :=
  tidy_statement '#' ']' framed (by decide)

theorem tidy_opening (first : Char) (framed : Framed first '\x7b' content)
    (plain : isWhiteSpace first = false ∧ first ≠ ' ' ∧ first ≠ '/') : Tidy (.opening content) := by
  obtain ⟨flat, begins, ends⟩ := framed
  obtain ⟨visible, flush, code⟩ := plain
  have found : content.toList.head? = some first := begins
  refine ⟨flat, opens_of_head begins flush code ends, ?_⟩
  simp [leadsBlank, contentOf, found, visible]

end

/-- Behind the mark of a comment, any text of one line will do. -/
theorem tidy_comment {content : String} (flat : OneLine content)
    (marked : ['/', '/'] <+: content.toList) : Tidy (.text content) := by
  obtain ⟨rest, split⟩ := marked
  have begins : content.toList.head? = some '/' := by simp [← split]
  have comment : isComment content.toList = true := by simp [← split, isComment, ownText]
  refine ⟨flat, ⟨?_, closes_of_head begins (by decide) (by decide)⟩, ?_⟩
  · simp [opens, comment]
  · simpa [leadsBlank, contentOf, begins] using by decide

section
variable {crossing : Crossing} (named : OneLine name) (run : OneLine runtime)
include named run

/-- The statements before the call are tidy, and the expression is in one line. -/
theorem tidy_beforeCall (flat : FlatType crossing.type) :
    (∀ line ∈ (crossing.beforeCall name runtime).1, Tidy line) ∧
      OneLine (crossing.beforeCall name runtime).2 := by
  have bare := flat.spelling
  have word := oneLine_stem named
  have bound : OneLine ((crossing.localName? name).getD name) := by
    unfold Crossing.localName? Crossing.localEnding
    cases crossing.strategy <;> cases crossing.mode <;> simp +decide [named, word]
  have begun : Tidy (.opening "\x7b") := tidy_opening '\x7b' (by decide) (by decide)
  have declared : ∀ {content : String}, OneLine content → Begins 'l' content → Ends ';' content →
      Tidy (.text content) := fun flat begins ends => tidy_let ⟨flat, begins, ends⟩
  unfold Crossing.beforeCall
  generalize (crossing.localName? name).getD name = bound' at bound ⊢
  cases crossing.strategy with
  | default => cases crossing.mode <;> simp +decide [begun, declared, bound, bare, named]
  | boolean => cases crossing.mode <;> simp +decide [declared, bound, named, run]
  | stringHandle =>
    dsimp only
    split <;> simp +decide [begun, declared, bound, named, run]
  | nativeHandleObject nullable =>
    cases nullable <;> simp +decide [declared, bound, named, word, run]

/-- The statements after the call are tidy. -/
theorem tidy_afterCall : ∀ line ∈ crossing.afterCall name runtime, Tidy line := by
  have word := oneLine_stem named
  have restored : Tidy (.text ("*" ++ name ++ " = " ++ runtime ++ "::bool_from_native(__" ++
      Naming.stem name ++ "_native);")) :=
    tidy_statement '*' ';' (by simp +decide [Framed, named, word, run]) (by decide)
  unfold Crossing.afterCall
  split
  · exact List.forall_mem_singleton.mpr restored
  · exact List.forall_mem_singleton.mpr restored
  · split
    · exact List.forall_mem_singleton.mpr tidy_closing
    · exact List.forall_mem_nil _

end

/-- The line that answers a converted truth value. -/
def answerText (runtime : String) : String := runtime ++ "::bool_from_native(__result)"

/-- A member that returns a truth value. -/
def Answers (plan : MemberPlan) : Prop := plan.ret.type = .bool

private theorem answerText_eq (runtime : String) :
    answerText runtime = runtime ++ "::bool_from_native(" ++ "__result" ++ ")" := by
  rw [String.append_assoc, String.append_assoc]
  rfl

theorem legible_answerText (runtime : String) : Legible (.text (answerText runtime)) := by
  have ends : Ends ')' (answerText runtime) := by
    unfold answerText
    simp +decide
  exact ⟨opens_of_getLast ends (by decide), closes_of_getLast ends (by decide)⟩

theorem oneLine_answerText (run : OneLine runtime) : OneLine (answerText runtime) := by
  unfold answerText
  simp +decide [run]

/-- The answer begins like the path of the run-time pieces. -/
theorem leadsBlank_answerText (runtime : String) :
    leadsBlank (answerText runtime).toList = leadsBlank runtime.toList := by
  rw [answerText, String.toList_append]
  cases runtime.toList with
  | nil => decide
  | cons first rest => rfl

/-- The line behind the call begins with a word of its own, unless it converts a truth value. -/
theorem tidy_unmarshal (crossing : Crossing) (run : OneLine runtime) :
    Tidy (.text (crossing.unmarshal "__result" runtime)) ∨
      crossing.type = .bool ∧ crossing.unmarshal "__result" runtime = answerText runtime := by
  have plain : Tidy (.text "__result") :=
    tidy_statement '_' 't' (by decide) (by decide)
  have taken : Tidy (.text ("unsafe \x7b " ++ runtime ++ "::NativeString::take(" ++ "__result" ++
      ") \x7d")) :=
    tidy_statement 'u' '\x7d' (by simp +decide [Framed, run]) (by decide)
  obtain ⟨type, mode⟩ := crossing
  cases type with
  | bool => exact .inr ⟨rfl, (answerText_eq runtime).symm⟩
  | str owned => exact .inl taken
  | _ => exact .inl plain

private theorem oneLine_returnSuffix (plan : MemberPlan) {type : String} (flat : OneLine type) :
    OneLine (plan.returnSuffix type) := by
  unfold MemberPlan.returnSuffix
  split <;> simp +decide [flat]

/-- A member whose texts have no line feed in them. -/
structure FlatMember (plan : MemberPlan) : Prop where
  functionName : OneLine plan.symbols.functionName
  slot : OneLine plan.symbols.slot
  entryPoint : OneLine plan.symbols.entryPoint
  receiver : ∀ receiver, plan.symbols.receiver = some receiver → OneLine receiver
  params : ∀ parameter ∈ plan.params, OneLine parameter.ident ∧ FlatType parameter.crossing.type
  ret : FlatType plan.ret.type

/-- Arguments whose texts have no line feed in them. -/
def FlatArguments (written : List WrittenArgument) : Prop :=
  ∀ argument ∈ written, OneLine argument.type ∧ OneLine argument.expression

section
variable {written : List WrittenArgument} (flat : FlatMember plan) (run : OneLine runtime)
  (arguments : FlatArguments written)

include flat in
theorem FlatMember.signature : ∀ text ∈ plan.signature, OneLine text := by
  unfold MemberPlan.signature
  refine List.forall_mem_append.mpr ⟨?receiver, List.forall_mem_map.mpr ?parameters⟩
  case receiver => cases plan.symbols.receiver <;> simp +decide
  case parameters =>
    intro parameter member
    obtain ⟨named, type⟩ := flat.params parameter member
    have managed := oneLine_managedType type
    simp +decide [named, managed]

include flat arguments in
theorem tidy_slot (config : Config) (run : OneLine config.runtimePath) :
    ∀ line ∈ plan.slot config written, Tidy line := by
  have types : OneLine (", ".intercalate (written.map (·.type))) :=
    oneLine_intercalate (List.forall_mem_map.mpr fun argument member => (arguments argument member).1)
  have result := oneLine_returnSuffix plan (oneLine_nativeType flat.ret)
  have convention : OneLine config.convention.text := by cases config.convention <;> decide
  have hidden : Tidy (.text "#[doc(hidden)]") := tidy_attribute (by decide)
  refine List.forall_mem_cons.mpr ⟨hidden, List.forall_mem_singleton.mpr ?_⟩
  refine tidy_statement 's' ';' ?_ (by decide)
  simp +decide [Framed, flat.slot, run, convention, types, result]

include flat run arguments in
/-- The lines of a body are tidy but for the answer of a truth value. -/
theorem tidy_body : ∀ line ∈ plan.body runtime written,
    Tidy line ∨ Answers plan ∧ line = .text (answerText runtime) := by
  have expressions : OneLine (", ".intercalate (written.map (·.expression))) :=
    oneLine_intercalate (List.forall_mem_map.mpr fun argument member => (arguments argument member).2)
  unfold MemberPlan.body
  simp only [List.forall_mem_append]
  refine ⟨⟨⟨⟨⟨⟨?entry, ?receiver⟩, ?declared⟩, ?before⟩, ?call⟩, ?after⟩, ?answer⟩
  case entry =>
    refine List.forall_mem_singleton.mpr (.inl ?_)
    exact tidy_let (by simp +decide [Framed, flat.slot, flat.entryPoint])
  case receiver =>
    cases bound : plan.symbols.receiver with
    | none => exact List.forall_mem_nil _
    | some receiver =>
      refine List.forall_mem_singleton.mpr (.inl ?_)
      have named := flat.receiver receiver bound
      exact tidy_let (by simp +decide [Framed, named, run])
  case declared =>
    have empty : Tidy (.text "let __result;") := tidy_let (by decide)
    split
    · exact List.forall_mem_singleton.mpr (.inl empty)
    · exact List.forall_mem_nil _
  case before =>
    refine List.forall_mem_flatMap.mpr fun parameter member line listed => .inl ?_
    obtain ⟨named, type⟩ := flat.params parameter member
    exact (tidy_beforeCall named run type).1 line listed
  case call =>
    have native : OneLine (MemberPlan.call written) ∧ Begins 'u' (MemberPlan.call written) ∧
        MemberPlan.call written ≠ "" := by
      unfold MemberPlan.call
      generalize ", ".intercalate (written.map (·.expression)) = list at expressions ⊢
      simp +decide [expressions]
    obtain ⟨called, begins, filled⟩ := native
    refine List.forall_mem_singleton.mpr (.inl ?_)
    split
    · split
      · exact tidy_statement '_' ';' (by simp +decide [Framed, called]) (by decide)
      · exact tidy_let (by simp +decide [Framed, called])
    · exact tidy_statement 'u' ';' (by simp +decide [Framed, called, begins, filled]) (by decide)
  case after =>
    refine List.forall_mem_flatMap.mpr fun parameter member line listed => .inl ?_
    obtain ⟨named, -⟩ := flat.params parameter (List.mem_reverse.mp member)
    exact tidy_afterCall named run line listed
  case answer =>
    split
    · refine List.forall_mem_singleton.mpr ?_
      rcases tidy_unmarshal plan.ret run with tidy | ⟨truth, text⟩
      · exact .inl tidy
      · exact .inr ⟨truth, congrArg Line.text text⟩
    · exact List.forall_mem_nil _

include flat run arguments in
/-- The lines of a function are tidy but for the answer of a truth value. -/
theorem tidy_function : ∀ line ∈ plan.function runtime written,
    Tidy line ∨ Answers plan ∧ line = .text (answerText runtime) := by
  have signature := oneLine_intercalate flat.signature
  have result := oneLine_returnSuffix plan (oneLine_managedReturnType flat.ret)
  rw [function_eq, List.forall_mem_cons, List.forall_mem_cons, List.forall_mem_append,
    List.forall_mem_singleton]
  refine ⟨.inl ?documentation, .inl ?head, tidy_body flat run arguments, .inl tidy_closing⟩
  case documentation =>
    have entryPoint := flat.entryPoint
    unfold MemberPlan.docLine
    exact tidy_comment (by simp +decide [entryPoint]) (by simp)
  case head =>
    have visibility : OneLine plan.decl.effectiveVisibility.insideUnit ∧
        Begins 'p' plan.decl.effectiveVisibility.insideUnit ∧
        plan.decl.effectiveVisibility.insideUnit ≠ "" := by
      cases plan.decl.effectiveVisibility <;> decide
    have word := flat.functionName
    unfold MemberPlan.headLine
    generalize plan.decl.effectiveVisibility.insideUnit = visible at visibility ⊢
    generalize plan.symbols.functionName = name at word ⊢
    generalize ", ".intercalate plan.signature = list at signature ⊢
    generalize plan.returnSuffix plan.ret.managedReturnType = suffix at result ⊢
    obtain ⟨one, begins, filled⟩ := visibility
    refine tidy_opening 'p' ?_ (by decide)
    simp +decide [Framed, one, begins, filled, word, signature, result]

/-- The function of a member that returns a truth value has the answer among its lines. -/
theorem answer_mem_function (answers : Answers plan) :
    .text (answerText runtime) ∈ plan.function runtime written := by
  have type : plan.ret.type = .bool := answers
  have returned : plan.hasResult = true := by simp [MemberPlan.hasResult, type, TypeRef.isUnit]
  have answer : plan.ret.unmarshal "__result" runtime = answerText runtime := by
    rw [Crossing.unmarshal, Crossing.strategy, type, answerText_eq]
    rfl
  have last : .text (answerText runtime) ∈ plan.body runtime written := by
    apply List.mem_append_right _
    rw [if_pos returned, answer]
    exact List.mem_singleton_self _
  rw [function_eq]
  exact List.mem_cons_of_mem _ (List.mem_cons_of_mem _ (List.mem_append_left _ last))

end

theorem FlatMember.nativeArguments (flat : FlatMember plan) (run : OneLine runtime) :
    ∀ argument ∈ plan.nativeArguments runtime,
      OneLine argument.type.text ∧ OneLine argument.expression := by
  have pointer : OneLine opaquePointer := by decide
  unfold MemberPlan.nativeArguments
  refine List.forall_mem_append.mpr ⟨?receiver, List.forall_mem_map.mpr ?parameters⟩
  case receiver =>
    cases bound : plan.symbols.receiver with
    | none => exact List.forall_mem_nil _
    | some receiver => exact List.forall_mem_singleton.mpr ⟨pointer, flat.receiver receiver bound⟩
  case parameters =>
    intro parameter member
    obtain ⟨named, type⟩ := flat.params parameter member
    exact ⟨oneLine_nativeType type, (tidy_beforeCall named run type).2⟩

/-- An argument that is in one line is so behind a wrapper. -/
theorem oneLine_carried (config : Config) (table : WrapperTable) {argument : NativeArgument}
    (type : OneLine argument.type.text) (expression : OneLine argument.expression) :
    OneLine (carried config table argument).type ∧
      OneLine (carried config table argument).expression := by
  unfold carried
  split
  · obtain ⟨index, name, -, -⟩ := WrapperTables.intern_cases table argument.type.text
    have wrapped : OneLine (table.intern argument.type.text).1 := name ▸ oneLine_wrapperName index
    exact ⟨wrapped, by simp +decide [wrapped, expression]⟩
  · exact ⟨type, expression⟩

theorem FlatMember.carried (flat : FlatMember plan) (run : OneLine runtime) (table : WrapperTable) :
    FlatArguments ((plan.nativeArguments runtime).map (carried config table)) := by
  refine List.forall_mem_map.mpr fun argument member => ?_
  obtain ⟨type, expression⟩ := flat.nativeArguments run argument member
  exact oneLine_carried config table type expression

theorem FlatMember.scalarTexts (flat : FlatMember plan) :
    ∀ text ∈ scalarTexts plan, OneLine text := by
  unfold WrapperNumbering.scalarTexts
  refine List.forall_mem_append.mpr ⟨?receiver, List.forall_mem_map.mpr ?parameters⟩
  case receiver => split <;> simp +decide
  case parameters =>
    intro parameter member
    exact oneLine_nativeType (flat.params parameter (List.mem_of_mem_filter member)).2

theorem tidy_definition {wrapper : Wrapper} (named : OneLine wrapper.name)
    (type : OneLine wrapper.underlying) : ∀ line ∈ wrapper.definition, Tidy line := by
  simp only [Wrapper.definition, List.forall_mem_cons]
  refine ⟨tidy_blank, tidy_attribute (by decide), tidy_attribute (by decide), tidy_attribute (by decide),
    ?type, ?field, tidy_closing, tidy_blank, ?impl, tidy_attribute (by decide), ?function, ?value,
    tidy_closing, tidy_closing, List.forall_mem_nil _⟩
  case type => exact tidy_opening 's' (by simp +decide [Framed, named]) (by decide)
  case field => exact tidy_statement 'd' ',' (by simp +decide [Framed, type]) (by decide)
  case impl => exact tidy_opening 'i' (by simp +decide [Framed, named, type]) (by decide)
  case function => exact tidy_opening 'f' (by simp +decide [Framed, type]) (by decide)
  case value => exact tidy_statement 'S' '\x7d' (by decide) (by decide)

theorem tidy_prelude (named : OneLine container.name) :
    ∀ line ∈ unitPrelude container, Tidy line := by
  simp only [unitPrelude, Container.moduleName, List.forall_mem_cons]
  refine ⟨?hidden, ?names, ?module, ?inner, tidy_blank, ?use, tidy_blank, List.forall_mem_nil _⟩
  case hidden => exact tidy_attribute (by decide)
  case names => exact tidy_attribute (by decide)
  case module => exact tidy_opening 'm' (by simp +decide [Framed, named]) (by decide)
  case inner =>
    refine tidy_attribute ⟨(oneLine_append _ _).mpr ⟨by decide, by decide⟩, ?_, ?_⟩
    · exact (begins_append (by decide)).mpr (by decide)
    · exact (ends_append (by decide)).mpr (by decide)
  case use => exact tidy_statement 'u' ';' (by decide) (by decide)

theorem tidy_header (path : OneLine container.path) (type : OneLine nativeType) (members : Nat) :
    ∀ line ∈ unitHeader container nativeType members, Tidy line := by
  have count := UnitHeader.lineFeed_notMem_toString members
  simp only [unitHeader, List.forall_mem_cons]
  refine ⟨tidy_comment (by decide) (by decide), tidy_comment (by decide) (by decide),
    tidy_comment (by simp +decide [path]) (by simp), tidy_comment (by simp +decide [type]) (by simp),
    tidy_comment ?_ (by simp), tidy_blank, List.forall_mem_nil _⟩
  exact (oneLine_append _ _).mpr ⟨by decide, count⟩

end NativeThunks.TidyLines
