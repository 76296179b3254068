import NativeThunks.Proofs.BodyStatements
import NativeThunks.Proofs.LegalMembers

/-! The blocks of a thunk. A parameter may begin a block in front of the native call, which has to be
ended behind it, and a result has to outlive them all. Followed here is which blocks are open in front
of every statement of a body. Statements that leave the open blocks as they are may stand anywhere;
those for a parameter do so together with whatever stands between them, and so a body does. Names are
compared as texts here, as they are where a member is judged. -/
namespace NativeThunks.ThunkScopes
open BodyStatements CallPositions LegalMembers PlanStages WrapperTables

variable {config : Config} {decl : Declaration} {plan : MemberPlan} {runtime : String}
  {arguments : List Value} {place : Nat} {outer : List Nat}

/-! ## Open blocks -/

/-- The open blocks behind a statement, innermost first. A block is known by the number of statements
in front of it. Nothing is answered if there is no block to end. -/
def blocksBehind (place : Nat) (outer : List Nat) : Statement → Option (List Nat)
  | .opening => some (place :: outer)
  | .closing => outer.tail?
  | _ => some outer

/-- The open blocks behind statements that begin at a place. -/
def blocksFrom : Nat → List Nat → List Statement → Option (List Nat)
  | _, outer, [] => some outer
  | place, outer, statement :: rest =>
    (blocksBehind place outer statement).bind fun opened => blocksFrom (place + 1) opened rest

/-- The open blocks behind the first statements of a body. -/
def blocks? (statements : List Statement) : Option (List Nat) := blocksFrom 0 [] statements

example : blocks? [.opening, .opening, .closing] = some [0] ∧ blocks? [.closing] = none := by
  decide +kernel

private theorem blocksFrom_append (place : Nat) (outer : List Nat) (front behind : List Statement) :
    blocksFrom place outer (front ++ behind) = (blocksFrom place outer front).bind fun opened =>
      blocksFrom (place + front.length) opened behind := by
  induction front generalizing place outer with
  | nil => rfl
  | cons statement rest ih =>
    have shifted : place + 1 + rest.length = place + (statement :: rest).length := by
      rw [List.length_cons]
      omega
    simp only [List.cons_append, blocksFrom, ih, shifted, Option.bind_assoc]

private theorem blocks_append {front behind : List Statement} (before : blocks? front = some outer) :
    blocks? (front ++ behind) = blocksFrom front.length outer behind := by
  rw [blocks?, blocksFrom_append, ← blocks?, before, Nat.zero_add]
  rfl

/-- Statements that leave the open blocks as they are. -/
def Neutral (statements : List Statement) : Prop :=
  ∀ place outer, blocksFrom place outer statements = some outer

theorem Neutral.append {front behind : List Statement} (first : Neutral front)
    (second : Neutral behind) : Neutral (front ++ behind) := by
  intro place outer
  rw [blocksFrom_append, first place outer, Option.bind_some, second]

/-- A statement that neither begins nor ends a block. -/
structure Flat (statement : Statement) : Prop where
  opening : statement ≠ .opening
  closing : statement ≠ .closing

private theorem blocksBehind_of_flat {statement : Statement} (flat : Flat statement) :
    blocksBehind place outer statement = some outer := by
  cases statement with
  | opening => exact absurd rfl flat.opening
  | closing => exact absurd rfl flat.closing
  | _ => rfl

private theorem neutral_of_flat {statements : List Statement}
    (flat : ∀ statement ∈ statements, Flat statement) : Neutral statements := by
  intro place outer
  induction statements generalizing place with
  | nil => rfl
  | cons statement rest ih =>
    rw [blocksFrom, blocksBehind_of_flat (flat statement List.mem_cons_self), Option.bind_some]
    exact ih (fun other member => flat other (List.mem_cons_of_mem _ member)) _

/-- Statements that end no block leave all open ones open. -/
theorem blocksFrom_of_not_closing {statements : List Statement}
    (unclosed : Statement.closing ∉ statements) (place : Nat) (outer : List Nat) :
    ∃ own, blocksFrom place outer statements = some (own ++ outer) ∧
      own.length = statements.count .opening := by
  induction statements generalizing place outer with
  | nil => exact ⟨[], rfl, rfl⟩
  | cons statement rest ih =>
    have later := fun member => unclosed (List.mem_cons_of_mem statement member)
    by_cases opening : statement = .opening
    · subst opening
      obtain ⟨own, opened, count⟩ := ih later (place + 1) (place :: outer)
      exact ⟨own ++ [place], by simpa [blocksFrom, blocksBehind] using opened, by simp [count]⟩
    · have closing : statement ≠ .closing := fun same => unclosed (same ▸ List.mem_cons_self)
      obtain ⟨own, opened, count⟩ := ih later (place + 1) outer
      refine ⟨own, ?_, by rw [count, List.count_cons_of_ne opening]⟩
      rw [blocksFrom, blocksBehind_of_flat ⟨opening, closing⟩, Option.bind_some, opened]

/-- Statements that begin no block leave no new one open. -/
theorem suffix_of_not_opening {statements : List Statement} {opened : List Nat}
    (unopened : Statement.opening ∉ statements)
    (behind : blocksFrom place outer statements = some opened) : opened <:+ outer := by
  induction statements generalizing place outer with
  | nil =>
    cases behind
    exact List.suffix_refl _
  | cons statement rest ih =>
    have later := fun member => unopened (List.mem_cons_of_mem statement member)
    obtain ⟨inside, first, behind⟩ := Option.bind_eq_some_iff.mp behind
    apply (ih later behind).trans
    by_cases closing : statement = .closing
    · subst closing
      cases outer with
      | nil => cases first
      | cons block outer =>
        cases first
        exact List.suffix_cons block _
    · have opening : statement ≠ .opening := fun same => unopened (same ▸ List.mem_cons_self)
      rw [blocksBehind_of_flat ⟨opening, closing⟩] at first
      cases first
      exact List.suffix_refl _

/-! ## Parameters -/

/-- The block of a parameter whose statements begin at a place, if it has one. -/
def ownBlocks (place : Nat) (parameter : PlannedParameter) : List Nat :=
  if parameter.crossing.opensScope then [place] else []

/-- What the statements for a parameter do to blocks: those in front of the call begin one if the
parameter has a scope, those behind it end one, and there is no other beginning or end. -/
structure OwnBlock (runtime : String) (parameter : PlannedParameter) : Prop where
  begun : (beginParameter runtime parameter).count .opening =
    if parameter.crossing.opensScope then 1 else 0
  unclosed : .closing ∉ beginParameter runtime parameter
  ended : (endParameter runtime parameter).count .closing =
    if parameter.crossing.opensScope then 1 else 0
  unopened : .opening ∉ endParameter runtime parameter

private theorem ownBlock (runtime : String) (parameter : PlannedParameter) :
    OwnBlock runtime parameter := by
  constructor
  case begun =>
    unfold beginParameter
    rcases declaration_cases parameter runtime with
      ⟨_, declared⟩ | ⟨_, _, _, _, _, declared, _⟩
    all_goals
      rw [declared]
      cases parameter.crossing.opensScope <;> rfl
  case unclosed =>
    unfold beginParameter
    rcases declaration_cases parameter runtime with
      ⟨_, declared⟩ | ⟨_, _, _, _, _, declared, _⟩
    all_goals
      rw [declared]
      cases parameter.crossing.opensScope <;> simp
  case ended =>
    unfold endParameter
    cases isWrittenBack parameter <;> cases parameter.crossing.opensScope <;> rfl
  case unopened =>
    unfold endParameter
    cases isWrittenBack parameter <;> cases parameter.crossing.opensScope <;> simp

private theorem blocksFrom_begin (place : Nat) (outer : List Nat) (parameter : PlannedParameter) :
    blocksFrom place outer (beginParameter runtime parameter) =
      some (ownBlocks place parameter ++ outer) := by
  unfold beginParameter ownBlocks
  rcases declaration_cases parameter runtime with ⟨_, declared⟩ | ⟨_, _, _, _, _, declared, _⟩
  all_goals
    rw [declared]
    cases parameter.crossing.opensScope <;> rfl

private theorem blocksFrom_end (place begun : Nat) (outer : List Nat) (parameter : PlannedParameter) :
    blocksFrom place (ownBlocks begun parameter ++ outer) (endParameter runtime parameter) =
      some outer := by
  unfold endParameter ownBlocks
  cases isWrittenBack parameter <;> cases parameter.crossing.opensScope <;> rfl

/-- Whatever stands between the statements for a parameter, they end the block that they begin. -/
theorem neutral_around {inner : List Statement} (inside : Neutral inner)
    (parameter : PlannedParameter) :
    Neutral (beginParameter runtime parameter ++ inner ++ endParameter runtime parameter) := by
  intro place outer
  rw [blocksFrom_append, blocksFrom_append, blocksFrom_begin, Option.bind_some, inside,
    Option.bind_some, blocksFrom_end]

/-- What stands between the statements for some parameters, with the statements around it. -/
def around (runtime : String) (params : List PlannedParameter) (inner : List Statement) :
    List Statement :=
  params.flatMap (beginParameter runtime) ++ inner ++ params.reverse.flatMap (endParameter runtime)

private theorem around_cons (runtime : String) (parameter : PlannedParameter)
    (rest : List PlannedParameter) (inner : List Statement) :
    around runtime (parameter :: rest) inner =
      beginParameter runtime parameter ++ around runtime rest inner ++
        endParameter runtime parameter := by
  simp [around]

/-- The statements behind the call end the blocks in the reverse order of the parameters, so blocks nest. -/
theorem neutral_params {inner : List Statement} (inside : Neutral inner)
    (params : List PlannedParameter) : Neutral (around runtime params inner) := by
  induction params with
  | nil => simpa [around] using inside
  | cons parameter rest ih =>
    rw [around_cons]
    exact neutral_around ih parameter

private theorem neutral_call (plan : MemberPlan) (arguments : List Value) :
    Neutral [callOf plan arguments] :=
  neutral_of_flat fun statement member => by
    obtain rfl := List.mem_singleton.mp member
    exact ⟨by simp [callOf], by simp [callOf]⟩

private theorem neutral_preamble (plan : MemberPlan) (runtime : String) :
    Neutral (preamble plan runtime) := by
  unfold preamble lookups
  cases plan.symbols.receiver <;> split <;> exact fun _ _ => rfl

private theorem neutral_ending (plan : MemberPlan) (runtime : String) :
    Neutral (ending plan runtime) := by
  unfold ending
  split
  · exact fun _ _ => rfl
  · exact fun _ _ => rfl

private theorem statements_eq (plan : MemberPlan) (runtime : String) (arguments : List Value) :
    statements plan runtime arguments = preamble plan runtime ++
      around runtime plan.params [callOf plan arguments] ++ ending plan runtime := by
  simp [statements, leading, trailing, around]

private theorem unclosed_leading (plan : MemberPlan) (runtime : String) :
    .closing ∉ leading plan runtime := by
  intro member
  rcases List.mem_append.mp member with first | begun
  · unfold preamble lookups at first
    cases receiver : plan.symbols.receiver <;> simp [receiver] at first
  · obtain ⟨parameter, _, member⟩ := List.mem_flatMap.mp begun
    exact (ownBlock runtime parameter).unclosed member

private theorem unopened_trailing (plan : MemberPlan) (runtime : String) :
    .opening ∉ trailing plan runtime := by
  intro member
  rcases List.mem_append.mp member with ended | last
  · obtain ⟨parameter, _, member⟩ := List.mem_flatMap.mp ended
    exact (ownBlock runtime parameter).unopened member
  · unfold ending at last
    split at last <;> simp at last

/-- The number of blocks that the statements in front of the call begin. -/
theorem count_leading (plan : MemberPlan) (runtime : String) :
    (leading plan runtime).count .opening = plan.params.countP (·.crossing.opensScope) := by
  have first : (preamble plan runtime).count .opening = 0 := by
    unfold preamble lookups
    cases plan.symbols.receiver <;> split <;> rfl
  rw [leading, List.count_append, first, Nat.zero_add]
  induction plan.params with
  | nil => rfl
  | cons parameter rest ih =>
    rw [List.flatMap_cons, List.count_append, ih, (ownBlock runtime parameter).begun,
      List.countP_cons, Nat.add_comm]

/-! ## Bodies -/

/-- A body ends with the blocks that it begins with. -/
theorem neutral_statements (plan : MemberPlan) (runtime : String) (arguments : List Value) :
    Neutral (statements plan runtime arguments) := by
  rw [statements_eq]
  exact ((neutral_preamble plan runtime).append
    (neutral_params (neutral_call plan arguments) plan.params)).append (neutral_ending plan runtime)

/-- The native call is at the innermost level: the blocks that are open there are those of all parameters
with a scope, and no other place of the body is in a further block. In front of the call blocks are
begun only, behind it ended only. -/
theorem innermost (plan : MemberPlan) (runtime : String) (arguments : List Value) :
    ∃ called, blocks? (leading plan runtime) = some called ∧
      called.length = plan.params.countP (·.crossing.opensScope) ∧
      ∀ front, front <+: statements plan runtime arguments →
        ∃ opened, blocks? front = some opened ∧ opened <:+ called := by
  obtain ⟨called, calledAt, count⟩ := blocksFrom_of_not_closing (unclosed_leading plan runtime) 0 []
  rw [List.append_nil] at calledAt
  refine ⟨called, calledAt, count.trans (count_leading plan runtime), ?_⟩
  rintro front ⟨rest, whole⟩
  rcases List.append_eq_append_iff.mp whole with ⟨more, before, _⟩ | ⟨behind, rfl, after⟩
  · have unclosed := unclosed_leading plan runtime
    rw [before] at unclosed
    obtain ⟨opened, openedAt, _⟩ := blocksFrom_of_not_closing
      (fun member => unclosed (List.mem_append_left _ member)) 0 []
    rw [List.append_nil] at openedAt
    obtain ⟨later, laterAt, _⟩ := blocksFrom_of_not_closing
      (fun member => unclosed (List.mem_append_right _ member)) front.length opened
    rw [← blocks?, before, blocks_append openedAt, laterAt] at calledAt
    cases calledAt
    exact ⟨opened, openedAt, List.suffix_append _ _⟩
  · have level := neutral_statements plan runtime arguments 0 []
    rw [← blocks?, ← whole, blocks?, blocksFrom_append] at level
    obtain ⟨opened, openedAt, _⟩ := Option.bind_eq_some_iff.mp level
    refine ⟨opened, openedAt, ?_⟩
    have unopened : .opening ∉ behind := by
      intro member
      have inside : .opening ∈ callOf plan arguments :: trailing plan runtime :=
        after ▸ List.mem_append_left _ member
      rcases List.mem_cons.mp inside with call | member
      · simp [callOf] at call
      · exact unopened_trailing plan runtime member
    rw [← blocks?, blocks_append calledAt] at openedAt
    exact suffix_of_not_opening unopened openedAt

/-- How the statements for a parameter stand in a body: what is in front of them and behind them, and the
blocks that are open at each place. Its local is declared and its write-back made where the same blocks are
open, and those are open at the call. -/
structure Around (plan : MemberPlan) (runtime : String) (arguments : List Value)
    (parameter : PlannedParameter) (later : List PlannedParameter) (front behind : List Statement)
    (outer : List Nat) : Prop where
  split : statements plan runtime arguments =
    front ++ (beginParameter runtime parameter ++ around runtime later [callOf plan arguments] ++
      endParameter runtime parameter) ++ behind
  before : blocks? front = some outer
  begun : blocks? (front ++ beginParameter runtime parameter) =
    some (ownBlocks front.length parameter ++ outer)
  declared : ∀ name, parameter.crossing.localName? parameter.ident = some name →
    ∃ start statement, beginParameter runtime parameter = start ++ [statement] ∧
      statement.declares = [name] ∧
      blocks? (front ++ start) = some (ownBlocks front.length parameter ++ outer)
  called : ∃ deeper, blocks? (front ++ (beginParameter runtime parameter ++
      later.flatMap (beginParameter runtime))) =
    some (deeper ++ (ownBlocks front.length parameter ++ outer))
  returned : blocks? (front ++ (beginParameter runtime parameter ++
      around runtime later [callOf plan arguments])) =
    some (ownBlocks front.length parameter ++ outer)
  stored : isWrittenBack parameter = true → ∃ value rest,
    endParameter runtime parameter = .store parameter.ident value :: rest
  ended : blocks? (front ++ (beginParameter runtime parameter ++
      around runtime later [callOf plan arguments] ++ endParameter runtime parameter)) = some outer

private theorem around_of_split {earlier later : List PlannedParameter} {parameter : PlannedParameter}
    (params : plan.params = earlier ++ parameter :: later) (runtime : String)
    (arguments : List Value) :
    ∃ front behind outer, Around plan runtime arguments parameter later front behind outer := by
  let front := preamble plan runtime ++ earlier.flatMap (beginParameter runtime)
  have begins : leading plan runtime = front ++ (beginParameter runtime parameter ++
      later.flatMap (beginParameter runtime)) := by simp [leading, params, front]
  have unclosed : .closing ∉ front := by
    intro member
    exact unclosed_leading plan runtime (begins ▸ List.mem_append_left _ member)
  obtain ⟨outer, before, _⟩ := blocksFrom_of_not_closing unclosed 0 []
  rw [List.append_nil] at before
  have inside : Neutral (around runtime later [callOf plan arguments]) :=
    neutral_params (neutral_call plan arguments) later
  refine ⟨front, earlier.reverse.flatMap (endParameter runtime) ++ ending plan runtime, outer,
    ?split, before, ?begun, ?declared, ?called, ?returned, ?stored, ?ended⟩
  case split => simp [statements_eq, params, around, front]
  case begun => rw [blocks_append before, blocksFrom_begin]
  case declared =>
    intro name named
    rcases declaration_cases parameter runtime with
      ⟨unnamed, _⟩ | ⟨mutable, local_, type, value, given, declared, _⟩
    · cases unnamed.symm.trans named
    · obtain rfl := Option.some.inj (given.symm.trans named)
      refine ⟨if parameter.crossing.opensScope then [.opening] else [],
        .declare mutable local_ type (some value), ?_, rfl, ?_⟩
      · rw [beginParameter, declared]
        rfl
      · rw [blocks_append before, ownBlocks]
        cases parameter.crossing.opensScope <;> rfl
  case called =>
    have open_ : .closing ∉ later.flatMap (beginParameter runtime) := by
      intro member
      exact unclosed_leading plan runtime (begins ▸
        List.mem_append_right _ (List.mem_append_right _ member))
    obtain ⟨deeper, opened, _⟩ := blocksFrom_of_not_closing open_
      (front.length + (beginParameter runtime parameter).length)
      (ownBlocks front.length parameter ++ outer)
    refine ⟨deeper, ?_⟩
    rw [blocks_append before, blocksFrom_append, blocksFrom_begin, Option.bind_some, opened]
  case returned =>
    rw [blocks_append before, blocksFrom_append, blocksFrom_begin, Option.bind_some, inside]
  case stored =>
    intro written
    rw [endParameter, if_pos written]
    exact ⟨_, _, rfl⟩
  case ended => rw [blocks_append before, neutral_around inside parameter]

/-! ## Write-backs -/

/-- The names of the parameters differ. -/
def Distinct (plan : MemberPlan) : Prop := (plan.params.map (·.ident)).Nodup

/-- Every truth value that the native function writes is written back once, behind the call, and nothing
else is. -/
structure WritesBack (plan : MemberPlan) (runtime : String) (arguments : List Value) : Prop where
  before : (leading plan runtime).flatMap Statement.stores = []
  call : (callOf plan arguments).stores = []
  behind : (trailing plan runtime).flatMap Statement.stores =
    (plan.params.reverse.filter isWrittenBack).map (·.ident)
  once : ∀ parameter ∈ plan.params,
    ((trailing plan runtime).flatMap Statement.stores).count parameter.ident =
      if isWrittenBack parameter then 1 else 0

private theorem trailing_stores (plan : MemberPlan) (runtime : String) :
    (trailing plan runtime).flatMap Statement.stores =
      (plan.params.reverse.filter isWrittenBack).map (·.ident) := by
  have last : (ending plan runtime).flatMap Statement.stores = [] := by
    unfold ending
    split <;> rfl
  rw [trailing, List.flatMap_append, last, List.append_nil, List.flatMap_assoc]
  induction plan.params.reverse with
  | nil => rfl
  | cons parameter rest ih =>
    obtain ⟨_, _, _, stores⟩ := endParameter_names runtime parameter
    rw [List.flatMap_cons, stores, ih, List.filter_cons]
    cases isWrittenBack parameter <;> rfl

private theorem writesBack (distinct : Distinct plan) (runtime : String) (arguments : List Value) :
    WritesBack plan runtime arguments := by
  refine ⟨?before, rfl, trailing_stores plan runtime, ?once⟩
  case before =>
    have first : (preamble plan runtime).flatMap Statement.stores = [] := by
      unfold preamble lookups
      cases plan.symbols.receiver <;> split <;> rfl
    rw [leading, List.flatMap_append, first, List.nil_append, List.flatMap_assoc]
    exact List.flatMap_eq_nil_iff.mpr fun parameter _ => (beginParameter_names runtime parameter).2.2
  case once =>
    intro parameter member
    rw [trailing_stores]
    have reversed : (plan.params.reverse.map (·.ident)).Nodup := by
      rw [List.map_reverse, List.nodup_reverse]
      exact distinct
    have kept : ((plan.params.reverse.filter isWrittenBack).map (·.ident)).Nodup :=
      reversed.sublist (List.filter_sublist.map _)
    split
    · rename_i written
      exact List.count_eq_one_of_mem kept (List.mem_map_of_mem
        (List.mem_filter.mpr ⟨List.mem_reverse.mpr member, written⟩))
    · rename_i unwritten
      apply List.count_eq_zero.mpr
      intro listed
      obtain ⟨other, filtered, same⟩ := List.mem_map.mp listed
      obtain ⟨inside, written⟩ := List.mem_filter.mp filtered
      obtain rfl := List.inj_on_of_nodup_map distinct (List.mem_reverse.mp inside) member same
      exact unwritten written

/-! ## Results -/

/-- No other name in the thunk is that of the result. -/
structure Clear (plan : MemberPlan) : Prop where
  slot : plan.symbols.slot ≠ "__result"
  receiver : plan.symbols.receiver ≠ some "__result"
  ident : ∀ parameter ∈ plan.params, parameter.ident ≠ "__result"
  helper : ∀ parameter ∈ plan.params,
    parameter.crossing.localName? parameter.ident ≠ some "__result"

theorem Clear.bound (clear : Clear plan) {parameter : PlannedParameter}
    (member : parameter ∈ plan.params) : bound parameter ≠ "__result" := by
  have helper := clear.helper parameter member
  unfold BodyStatements.bound
  cases named : parameter.crossing.localName? parameter.ident with
  | none => exact clear.ident parameter member
  | some name => exact fun same => helper (named.trans (congrArg some same))

/-- A name with an ending that the result's does not have is not that of the result. -/
theorem ne_result (front : String) {ending : String} (apart : ¬ending.toList <:+ "__result".toList) :
    front ++ ending ≠ "__result" := by
  intro same
  exact apart ⟨front.toList, by rw [← String.toList_append, same]⟩

/-- The thunk of a legal member has no other name for its result. -/
theorem clear_of_legal (legal : Legal config decl) : Clear (.ofDeclaration decl config) := by
  constructor
  case slot => exact ne_result ("__" ++ decl.entryPoint) (by decide)
  case receiver =>
    intro given
    have named : decl.receiverName config.receiverName = some "__result" := given
    unfold Declaration.receiverName at named
    split at named
    · cases named
    · rename_i bound
      have usable := legal.receiver (Bool.eq_false_iff.mpr bound)
      exact usable.free.2 (Option.some.inj named)
  case ident =>
    intro parameter member same
    have usable := legal.usable member
    rw [same] at usable
    exact usable.free (by decide)
  case helper => exact fun _ _ named => localName_notMem_thunkLocals named (by decide)

private theorem distinct_of_legal (legal : Legal config decl) :
    Distinct (.ofDeclaration decl config) := by
  rw [Distinct, idents_planned]
  exact legal.distinct

/-- The result is declared once, outside of all blocks; it is given a value once, by the call; and it is read
once, by the last statement, behind all blocks. -/
structure ResultOnce (plan : MemberPlan) (runtime : String) (arguments : List Value) : Prop where
  declared : ∃ front statement rest,
    statements plan runtime arguments = front ++ statement :: rest ∧
      statement.declares = ["__result"] ∧ blocks? front = some []
  declaredOnce :
    ((statements plan runtime arguments).flatMap Statement.declares).count "__result" = 1
  assigned : (callOf plan arguments).assigns = ["__result"]
  assignedOnce :
    ((statements plan runtime arguments).flatMap Statement.assigns).count "__result" = 1
  read : ∃ front value, statements plan runtime arguments = front ++ [.answer value] ∧
    value.names = ["__result"] ∧ blocks? front = some []
  readOnce : ((statements plan runtime arguments).flatMap Statement.reads).count "__result" = 1

/-- What the statements of a body say is said by its parts. -/
theorem flatMap_statements (said : Statement → List String) (plan : MemberPlan) (runtime : String)
    (arguments : List Value) :
    (statements plan runtime arguments).flatMap said =
      (preamble plan runtime).flatMap said ++
        plan.params.flatMap (fun parameter => (beginParameter runtime parameter).flatMap said) ++
        said (callOf plan arguments) ++
        plan.params.reverse.flatMap (fun parameter =>
          (endParameter runtime parameter).flatMap said) ++
        (ending plan runtime).flatMap said := by
  simp [statements, leading, trailing, List.flatMap_assoc]

/-- Nothing that is said for the parameters is the name of the result. -/
theorem count_params (params : List PlannedParameter) (said : PlannedParameter → List String)
    (silent : ∀ parameter ∈ params, "__result" ∉ said parameter) :
    (params.flatMap said).count "__result" = 0 :=
  List.count_eq_zero.mpr fun member => by
    obtain ⟨parameter, listed, inside⟩ := List.mem_flatMap.mp member
    exact silent parameter listed inside

private theorem count_declares (clear : Clear plan) (result : plan.hasResult = true) :
    ((statements plan runtime arguments).flatMap Statement.declares).count "__result" = 1 := by
  have begins := count_params plan.params
    (fun parameter => (beginParameter runtime parameter).flatMap Statement.declares)
    fun parameter listed member => by
      rw [beginParameter_declares, Option.mem_toList] at member
      exact clear.helper parameter listed member
  have ends := count_params plan.params.reverse
    (fun parameter => (endParameter runtime parameter).flatMap Statement.declares)
    fun parameter _ member => by
      rw [(endParameter_names runtime parameter).1] at member
      cases member
  have last : (ending plan runtime).flatMap Statement.declares = [] := by
    unfold ending
    split <;> rfl
  have apart := clear.receiver
  rw [flatMap_statements, last]
  simp only [List.count_append, begins, ends]
  unfold preamble lookups callOf destination
  cases receiver : plan.symbols.receiver <;> cases plan.isScoped <;>
    simp_all [Statement.declares]

private theorem count_assigns (clear : Clear plan) (result : plan.hasResult = true) :
    ((statements plan runtime arguments).flatMap Statement.assigns).count "__result" = 1 := by
  have begins := count_params plan.params
    (fun parameter => (beginParameter runtime parameter).flatMap Statement.assigns)
    fun parameter listed member =>
      clear.helper parameter listed ((beginParameter_names runtime parameter).2.1 _ member)
  have ends := count_params plan.params.reverse
    (fun parameter => (endParameter runtime parameter).flatMap Statement.assigns)
    fun parameter _ member => by
      rw [(endParameter_names runtime parameter).2.2.1] at member
      cases member
  have last : (ending plan runtime).flatMap Statement.assigns = [] := by
    unfold ending
    split <;> rfl
  have apart := clear.receiver
  rw [flatMap_statements, last]
  simp only [List.count_append, begins, ends]
  unfold preamble lookups callOf destination
  cases receiver : plan.symbols.receiver <;> cases plan.isScoped <;>
    simp_all [Statement.assigns]

private theorem answerOf_names (plan : MemberPlan) (runtime : String) :
    (answerOf plan runtime).names = ["__result"] := by
  unfold answerOf
  cases plan.ret.strategy <;> rfl

private theorem count_reads (clear : Clear plan) (result : plan.hasResult = true)
    (names : arguments.flatMap Value.names =
      plan.symbols.receiver.toList ++ plan.params.map bound) :
    ((statements plan runtime arguments).flatMap Statement.reads).count "__result" = 1 := by
  have first : ((preamble plan runtime).flatMap Statement.reads).count "__result" = 0 := by
    have apart := clear.slot
    unfold preamble lookups
    cases plan.symbols.receiver <;> split <;>
      simp [Statement.reads, Value.names, apart]
  have begins := count_params plan.params
    (fun parameter => (beginParameter runtime parameter).flatMap Statement.reads)
    fun parameter listed member =>
      clear.ident parameter listed ((beginParameter_names runtime parameter).1 _ member).symm
  have call : (callOf plan arguments).reads.count "__result" = 0 := by
    have called : (callOf plan arguments).reads =
        "__native" :: (plan.symbols.receiver.toList ++ plan.params.map bound) :=
      congrArg (List.cons "__native") names
    rw [called]
    apply List.count_eq_zero.mpr
    intro member
    rcases List.mem_cons.mp member with native | member
    · exact absurd native (by decide)
    · rcases List.mem_append.mp member with object | parameter
      · exact clear.receiver (Option.mem_toList.mp object)
      · obtain ⟨parameter, listed, same⟩ := List.mem_map.mp parameter
        exact clear.bound listed same
  have ends := count_params plan.params.reverse
    (fun parameter => (endParameter runtime parameter).flatMap Statement.reads)
    fun parameter listed member => by
      have inside := List.mem_reverse.mp listed
      rcases (endParameter_names runtime parameter).2.1 _ member with ident | helper
      · exact clear.ident parameter inside ident.symm
      · exact clear.bound inside helper.symm
  have last : (ending plan runtime).flatMap Statement.reads = ["__result"] := by
    rw [ending, if_pos result]
    simpa [Statement.reads] using answerOf_names plan runtime
  rw [flatMap_statements, last]
  simp only [List.count_append, first, begins, call, ends]
  rfl

/-- Where no parameter begins a block the call declares the result, and otherwise the last statement
in front of those for the parameters. -/
theorem resultOnce (clear : Clear plan) (result : plan.hasResult = true)
    (names : arguments.flatMap Value.names =
      plan.symbols.receiver.toList ++ plan.params.map bound) :
    ResultOnce plan runtime arguments := by
  refine ⟨?declared, count_declares clear result, ?assigned, count_assigns clear result, ?read,
    count_reads clear result names⟩
  case declared =>
    cases deferred : plan.isScoped with
    | false =>
      obtain ⟨called, calledAt, count, _⟩ := innermost plan runtime arguments
      have none : plan.params.countP (·.crossing.opensScope) = 0 :=
        List.countP_eq_zero.mpr fun parameter member => by
          simpa using List.any_eq_false.mp deferred parameter member
      rw [none] at count
      obtain rfl := List.eq_nil_of_length_eq_zero count
      refine ⟨leading plan runtime, callOf plan arguments, trailing plan runtime, rfl, ?_, calledAt⟩
      simp [callOf, destination, result, deferred, Statement.declares]
    | true =>
      have first : Neutral (lookups plan runtime) := by
        unfold lookups
        cases plan.symbols.receiver <;> exact fun _ _ => rfl
      refine ⟨lookups plan runtime, .declare false "__result" none none,
        plan.params.flatMap (beginParameter runtime) ++
          callOf plan arguments :: trailing plan runtime, ?_, rfl, first 0 []⟩
      simp [statements, leading, preamble, result, deferred]
  case assigned =>
    unfold callOf destination
    cases plan.isScoped <;> simp [result, Statement.assigns]
  case read =>
    have level := neutral_statements plan runtime arguments 0 []
    have last : ending plan runtime = [.answer (answerOf plan runtime)] := if_pos result
    refine ⟨preamble plan runtime ++ around runtime plan.params [callOf plan arguments],
      answerOf plan runtime, by rw [statements_eq, last], answerOf_names plan runtime, ?_⟩
    exact ((neutral_preamble plan runtime).append
      (neutral_params (neutral_call plan arguments) plan.params)) 0 []

/-- The body of a planned member consists of statements whose blocks nest. Each parameter with a scope
begins one block and ends it, and no other statement begins or ends any; the statements for a parameter
surround those for the later ones, so the innermost block is ended first and the body ends where it began;
and the call is at the innermost level. Locals are declared, and truth values are written back, in blocks
that are open at the call, each written truth value once. A result outlives all blocks. Names are told
apart as texts: a parameter that is spelled `r#__result`, or with a blank in front of `__result`, is not
counted as the result, though the compiler takes it for the same name. Which names are the same for the
compiler is the subject of `ThunkNames`, `HelperLocals` and `ReceiverBinding`. -/
theorem scopes_nest (planned : decl.plan config = .ok plan) (table : WrapperTable) :
    ∃ arguments : List Value,
      plan.body config.runtimePath
          (table.writeAll config (plan.nativeArguments config.runtimePath)).1 =
        (statements plan config.runtimePath arguments).map Statement.line ∧
      arguments.flatMap Value.names = plan.symbols.receiver.toList ++ plan.params.map bound ∧
      (∀ parameter ∈ plan.params, OwnBlock config.runtimePath parameter) ∧
      (∀ earlier parameter later, plan.params = earlier ++ parameter :: later →
        ∃ front behind outer,
          Around plan config.runtimePath arguments parameter later front behind outer) ∧
      blocks? (statements plan config.runtimePath arguments) = some [] ∧
      (∃ called, blocks? (leading plan config.runtimePath) = some called ∧
        called.length = plan.params.countP (·.crossing.opensScope) ∧
        ∀ front, front <+: statements plan config.runtimePath arguments →
          ∃ opened, blocks? front = some opened ∧ opened <:+ called) ∧
      WritesBack plan config.runtimePath arguments ∧
      (plan.hasResult = true → ResultOnce plan config.runtimePath arguments) := by
  obtain ⟨passed, rfl⟩ := plan_ok planned
  have legal := passed_iff_legal.mp passed
  let final := (table.writeAll config
    ((MemberPlan.ofDeclaration decl config).nativeArguments config.runtimePath)).2
  have names := callValues_names config final (.ofDeclaration decl config)
  refine ⟨callValues config final (.ofDeclaration decl config), body_lines _ _ ?written, names,
    fun parameter _ => ownBlock _ parameter, fun _ _ _ params => around_of_split params _ _,
    neutral_statements _ _ _ 0 [], innermost _ _ _, writesBack (distinct_of_legal legal) _ _,
    fun result => resultOnce (clear_of_legal legal) result names⟩
  case written => rw [writeAll_carried (Extends.refl _), callValues_text]

/-- A text, a truth value that is written, and a structure by reference: two parameters have a scope, the
third is written back, and the result is declared in front of both. -/
theorem scopes_nest_probe :
    let probe := { Declaration.method Samples.camera "Probe" with
      params := [{ name := "label", type := .str false },
        { name := "visible", type := .bool, mode := .out },
        { name := "origin", type := .named "Vector3", mode := .ref }]
      ret := .bool }
    let plan := MemberPlan.ofDeclaration probe {}
    let runtime := Config.runtimePath {}
    probe.plan {} = .ok plan ∧ ∃ arguments called,
      blocks? (statements plan runtime arguments) = some [] ∧
      blocks? (leading plan runtime) = some called ∧ called.length = 2 ∧
      ((trailing plan runtime).flatMap Statement.stores).count "visible" = 1 ∧
      ResultOnce plan runtime arguments := by
  intro probe plan runtime
  have planned : probe.plan {} = .ok plan := by decide +kernel
  obtain ⟨arguments, _, _, _, _, level, ⟨called, calledAt, count, _⟩, writes, result⟩ :=
    scopes_nest planned {}
  have once := writes.once (.ofParameter { name := "visible", type := .bool, mode := .out })
    (List.mem_cons_of_mem _ List.mem_cons_self)
  exact ⟨planned, arguments, called, level, calledAt, count, once, result rfl⟩

end NativeThunks.ThunkScopes
