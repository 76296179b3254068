import NativeThunks.Proofs.BodyStatements
import NativeThunks.Proofs.LegalMembers
import NativeThunks.Proofs.ModuleNames

/-! Whether the locals that a thunk declares for its parameters collide. A local is named by the word of
its parameter, between two underscores and an ending that says what the local holds, and a parameter
may not have two underscores in front. So the names of locals are told apart by what they are made of,
and no local has the name of a parameter, as texts. But the language drops blanks beside a name, and a
parameter with a blank in front of its underscores passes the check: it may be the identifier of a
local. Names are compared in both ways here. -/
namespace NativeThunks.HelperLocals
open BodyStatements Grammar Identifiers LegalMembers LexedNames ModuleNames Naming PlanStages Text
open ReceiverBinding (identifierOf?)
open WholeWords (trees_of_word)

variable {config : Config} {decl : Declaration} {plan : MemberPlan} {text identifier : String}

/-- The locals for the parameters of a member. -/
def helperLocals (plan : MemberPlan) : List String :=
  plan.params.filterMap fun parameter => parameter.crossing.localName? parameter.ident

/-- A name that is not given with a raw mark. -/
def Unraw (text : String) : Prop := ¬['r', '#'] <+: text.toList

instance (text : String) : Decidable (Unraw text) :=
  inferInstanceAs (Decidable (¬['r', '#'] <+: text.toList))

/-- Two names that stand for one identifier. -/
def Clash (first second : String) : Prop :=
  ∃ identifier, identifierOf? first = some identifier ∧ identifierOf? second = some identifier

/-- No local is the identifier of a further local, of a parameter, or of a local that every thunk has. -/
structure LocalsApart (plan : MemberPlan) : Prop where
  pairwise : (helperLocals plan).Pairwise fun first second => ¬Clash first second
  others : ∀ name ∈ helperLocals plan, ∀ other ∈ plan.params.map (·.ident) ++ thunkLocals,
    ¬Clash name other

private theorem mem_helperLocals : text ∈ helperLocals plan ↔
    ∃ parameter ∈ plan.params, parameter.crossing.localName? parameter.ident = some text :=
  List.mem_filterMap

/-- The statements for the parameters declare the locals and nothing else. -/
theorem beginParameters_declare (plan : MemberPlan) (runtime : String) :
    (plan.params.flatMap (beginParameter runtime)).flatMap Statement.declares =
      helperLocals plan := by
  rw [List.flatMap_assoc, helperLocals, List.filterMap_eq_flatMap_toList]
  simp only [beginParameter_declares]

/-- A parameter is its word, escaped. -/
theorem ident_of_stem (unraw : ∀ parameter ∈ decl.params, Unraw parameter.name)
    {parameter : PlannedParameter} (member : parameter ∈ (MemberPlan.ofDeclaration decl config).params) :
    escapeReserved (stem parameter.ident) = parameter.ident := by
  obtain ⟨given, listed, rfl⟩ := List.mem_map.mp member
  exact escapeReserved_stem (stem_of_unraw (unraw given listed))

/-- Locals of one name are made of the same word, since no ending is the end of another one. -/
theorem stem_of_localName {one other : Crossing} {first second : String}
    (named : one.localName? first = some text) (again : other.localName? second = some text) :
    stem first = stem second := by
  obtain ⟨ending, member, spelled⟩ := localName_split named
  obtain ⟨ending', member', spelled'⟩ := localName_split again
  have apart : ∀ ending ∈ localEndings, ∀ other ∈ localEndings,
      ending.toList <:+ other.toList → ending = other := by decide
  have same : ending = ending' := by
    rcases List.suffix_or_suffix_of_suffix (ending_suffix spelled) (ending_suffix spelled') with
      within | within
    · exact apart ending member ending' member' within
    · exact (apart ending' member' ending member within).symm
  subst same
  have letters := spelled.symm.trans spelled'
  simp only [List.cons.injEq, true_and] at letters
  exact String.toList_inj.mp (List.append_cancel_right letters)

/-- The locals of a legal member are distinct texts. -/
theorem helperLocals_nodup (legal : Legal config decl)
    (unraw : ∀ parameter ∈ decl.params, Unraw parameter.name) :
    (helperLocals (.ofDeclaration decl config)).Nodup := by
  have idents : ((MemberPlan.ofDeclaration decl config).params.map (·.ident)).Nodup :=
    idents_planned config decl ▸ legal.distinct
  refine List.pairwise_filterMap.mpr ((List.pairwise_map.mp idents).imp_of_mem ?_)
  intro one other member member' different first named second named' same
  subst same
  have word := stem_of_localName named named'
  exact different (by rw [← ident_of_stem unraw member, ← ident_of_stem unraw member', word])

/-- A local begins as no parameter may. -/
theorem helperLocals_apart (legal : Legal config decl) :
    ∀ name ∈ helperLocals (.ofDeclaration decl config),
      name ∉ (MemberPlan.ofDeclaration decl config).params.map (·.ident) ++ thunkLocals := by
  intro name member
  obtain ⟨_, _, named⟩ := mem_helperLocals.mp member
  rw [List.mem_append, not_or]
  refine ⟨?_, localName_notMem_thunkLocals named⟩
  intro taken
  obtain ⟨_, planned, rfl⟩ := List.mem_map.mp taken
  obtain ⟨ending, _, spelled⟩ := localName_split named
  exact (legal.usable planned).free ⟨_, spelled.symm⟩

theorem stem_subset (text : String) : (stem text).toList ⊆ text.toList := by
  intro c member
  unfold stem at member
  split at member
  · rename_i rest raw
    rw [String.toList_ofList] at member
    exact raw ▸ List.mem_cons_of_mem _ (List.mem_cons_of_mem _ member)
  · exact member

/-- An identifier has letters only. -/
theorem letters_of_identifier (named : identifierOf? text = some identifier) :
    ∀ c ∈ identifier.toList, isIdentifierContinue c = true := by
  unfold identifierOf? at named
  split at named
  · rename_i word lexed
    cases named
    obtain ⟨_, _, one⟩ := oneWord_of_trees lexed
    rcases takeAnyWord_cases one.word.takeAnyWord with
      ⟨_, letters, _, taken, rfl⟩ | ⟨letters, taken, rfl⟩
    · rw [stem_raw, String.toList_ofList]
      exact letters_of_word taken
    · intro c member
      apply letters_of_word taken c
      have kept := stem_subset _ member
      rwa [String.toList_ofList] at kept
  · cases named

private theorem stem_of_underscore {letters : List Char} (spelled : text.toList = '_' :: letters) :
    stem text = text :=
  stem_of_unraw (by simp [spelled])

/-- A name with two underscores and letters is an identifier. -/
theorem identifierOf_of_letters {letters : List Char} (spelled : text.toList = '_' :: '_' :: letters)
    (continued : ∀ c ∈ letters, isIdentifierContinue c = true) : identifierOf? text = some text := by
  have lexed := trees_of_word (word_of_letters continued)
  rw [← spelled, String.ofList_toList] at lexed
  rw [identifierOf_of_trees lexed, stem_of_underscore spelled]

/-- A name without a comment that begins with an underscore, and does not end with a blank, can only be
the identifier that it spells. -/
theorem identifierOf_eq_self {letters : List Char} {last : Char}
    (spelled : text.toList = '_' :: (letters ++ [last])) (solid : isBlank last = false)
    (plain : '/' ∉ text.toList) (named : identifierOf? text = some identifier) :
    identifier = text := by
  unfold identifierOf? at named
  split at named
  · rename_i word lexed
    cases named
    obtain ⟨before, found, after, split, taken, blank⟩ := spelled_of_trees lexed plain
    have unmarked : dropByteOrderMark text.toList = text.toList := by rw [spelled]; rfl
    rw [unmarked] at split
    have front : before = [] := by
      cases before with
      | nil => rfl
      | cons c rest =>
        obtain ⟨rfl, _⟩ := List.cons_eq_cons.mp (spelled.symm.trans split)
        exact absurd (blank '_' List.mem_cons_self) (by decide)
    have behind : after = [] := by
      rcases List.eq_nil_or_concat after with rfl | ⟨rest, c, rfl⟩
      · rfl
      · have ends : ('_' :: letters) ++ [last] = (before ++ (found ++ rest)) ++ [c] := by
          simpa using spelled.symm.trans split
        obtain ⟨_, same⟩ := List.append_inj' ends rfl
        cases same
        exact absurd (blank last (by simp)) (Bool.eq_false_iff.mp solid)
    subst front behind
    rw [List.nil_append, List.append_nil] at split
    rw [List.append_nil, ← split] at taken
    rw [eq_of_takeAnyWord taken, stem_of_underscore spelled]
  · cases named

/-- The local of a parameter without a comment is no identifier but the one that it spells. -/
theorem identifier_of_local {crossing : Crossing} {name : String}
    (named : crossing.localName? name = some text) (plain : '/' ∉ name.toList)
    (stands : identifierOf? text = some identifier) : identifier = text := by
  obtain ⟨ending, member, spelled⟩ := localName_split named
  have solid : ∀ ending ∈ localEndings, '/' ∉ ending.toList ∧
      ∃ front last, ending.toList = front ++ [last] ∧ isBlank last = false := by
    intro ending member
    simp only [localEndings, List.mem_cons, List.not_mem_nil, or_false] at member
    rcases member with rfl | rfl | rfl
    · exact ⟨by decide, "_pt".toList, 'r', rfl, by decide⟩
    · exact ⟨by decide, "_nativ".toList, 'e', rfl, by decide⟩
    · exact ⟨by decide, "_handl".toList, 'e', rfl, by decide⟩
  obtain ⟨endPlain, front, last, ends, solid⟩ := solid ending member
  have between : text.toList = '_' :: (('_' :: ((stem name).toList ++ front)) ++ [last]) := by
    rw [spelled, ends, ← List.append_assoc, List.cons_append]
  have uncommented : '/' ∉ text.toList := by
    rw [spelled]
    simp only [List.mem_cons, List.mem_append, not_or]
    exact ⟨by decide, by decide, fun slash => plain (stem_subset name slash), endPlain⟩
  exact identifierOf_eq_self between solid uncommented stands

/-- What stands for a local is spelled in letters, so the local is this identifier itself. -/
theorem local_of_identifier {crossing : Crossing} {name other : String}
    (named : crossing.localName? name = some text) (stands : identifierOf? other = some text) :
    identifierOf? text = some text := by
  obtain ⟨ending, _, spelled⟩ := localName_split named
  apply identifierOf_of_letters spelled
  intro c member
  exact letters_of_identifier stands c
    (spelled ▸ List.mem_cons_of_mem _ (List.mem_cons_of_mem _ member))

/-- A local is an identifier if its parameter is one which spells its word in letters. -/
theorem identifierOf_local {crossing : Crossing} {name : String}
    (named : crossing.localName? name = some text)
    (letters : ∀ c ∈ (stem name).toList, isIdentifierContinue c = true) :
    identifierOf? text = some text := by
  obtain ⟨ending, member, spelled⟩ := localName_split named
  have ends : ∀ ending ∈ localEndings, ending.toList.all isIdentifierContinue = true := by
    decide +kernel
  exact identifierOf_of_letters spelled
    (List.forall_mem_append.mpr ⟨letters, List.all_eq_true.mp (ends ending member)⟩)

/-- Where no parameter has a comment, the locals of a legal member are apart as identifiers exactly when no
parameter is the identifier that a local spells. -/
theorem localsApart_iff (legal : Legal config decl)
    (unraw : ∀ parameter ∈ decl.params, Unraw parameter.name)
    (uncommented : ∀ parameter ∈ (MemberPlan.ofDeclaration decl config).params,
      ¬HasComment parameter.ident) :
    LocalsApart (.ofDeclaration decl config) ↔
      ∀ parameter ∈ (MemberPlan.ofDeclaration decl config).params,
        ∀ name ∈ helperLocals (.ofDeclaration decl config),
          identifierOf? parameter.ident ≠ some name := by
  have own : ∀ name ∈ helperLocals (.ofDeclaration decl config), ∀ {identifier},
      identifierOf? name = some identifier → identifier = name := by
    intro name member identifier stands
    obtain ⟨parameter, planned, named⟩ := mem_helperLocals.mp member
    have plain : '/' ∉ parameter.ident.toList :=
      mt (hasComment_iff_slash (legal.usable planned).identifier).mpr
        (uncommented parameter planned)
    exact identifier_of_local named plain stands
  constructor
  · intro apart parameter planned name member stands
    obtain ⟨_, _, named⟩ := mem_helperLocals.mp member
    exact apart.others name member parameter.ident
      (List.mem_append_left _ (List.mem_map_of_mem planned))
      ⟨name, local_of_identifier named stands, stands⟩
  · intro free
    constructor
    · apply (helperLocals_nodup legal unraw).imp_of_mem
      rintro first second member member' different ⟨identifier, stands, stands'⟩
      exact different ((own first member stands).symm.trans (own second member' stands'))
    · rintro name member other listed ⟨identifier, stands, stands'⟩
      obtain rfl := own name member stands
      rcases List.mem_append.mp listed with taken | reserved
      · obtain ⟨parameter, planned, rfl⟩ := List.mem_map.mp taken
        exact free parameter planned identifier member stands'
      · have locals : ∀ name ∈ thunkLocals, identifierOf? name = some name := by decide +kernel
        rw [locals other reserved] at stands'
        exact helperLocals_apart legal identifier member
          (List.mem_append_right _ (Option.some.inj stands' ▸ reserved))

/-- No reserved word begins with two underscores. -/
theorem escapeReserved_underscores {letters : List Char} (spelled : text.toList = '_' :: '_' :: letters) :
    escapeReserved text = text := by
  have other : ∀ word ∈ pathWords ++ reservedWords, ¬['_', '_'] <+: word.toList := by decide +kernel
  have unreserved : text ∉ pathWords ++ reservedWords := by
    intro member
    exact other text member ⟨letters, spelled.symm⟩
  simp only [List.mem_append, not_or] at unreserved
  simp [escapeReserved, unreserved]

/-- A parameter that is given as a bare word is the identifier of this word, and of no local. -/
theorem identifier_of_bare (legal : Legal config decl)
    (bare : ∀ parameter ∈ decl.params, Bare parameter.name) {parameter : PlannedParameter}
    (planned : parameter ∈ (MemberPlan.ofDeclaration decl config).params) :
    identifierOf? parameter.ident = some (stem parameter.ident) ∧ ¬HasComment parameter.ident ∧
      ∀ name ∈ helperLocals (.ofDeclaration decl config), identifierOf? parameter.ident ≠ some name := by
  have usable := legal.usable planned
  have canonical : Canonical parameter.ident := by
    obtain ⟨given, listed, rfl⟩ := List.mem_map.mp planned
    exact canonical_escapeReserved (bare given listed)
  have stands := canonical.identifier usable.identifier
  refine ⟨stands, fun comment => ?_, fun name member again => ?_⟩
  · have slash := (hasComment_iff_slash usable.identifier).mp comment
    exact absurd (canonical.compact '/' slash (by decide)) (by decide)
  · obtain ⟨_, _, named⟩ := mem_helperLocals.mp member
    obtain ⟨ending, _, spelled⟩ := localName_split named
    have word : stem parameter.ident = name := Option.some.inj (stands.symm.trans again)
    have same : parameter.ident = name := by
      rw [← canonical.2, word, escapeReserved_underscores spelled]
    exact usable.free ⟨_, (same ▸ spelled).symm⟩

/-- Locals of parameters that are given as bare words are apart, and are identifiers. -/
theorem localsApart_of_bare (legal : Legal config decl)
    (bare : ∀ parameter ∈ decl.params, Bare parameter.name)
    (unraw : ∀ parameter ∈ decl.params, Unraw parameter.name) :
    LocalsApart (.ofDeclaration decl config) ∧
      ∀ name ∈ helperLocals (.ofDeclaration decl config), identifierOf? name = some name := by
  constructor
  · refine (localsApart_iff legal unraw fun parameter planned => ?_).mpr fun parameter planned => ?_
    · exact (identifier_of_bare legal bare planned).2.1
    · exact (identifier_of_bare legal bare planned).2.2
  · intro name member
    obtain ⟨parameter, planned, named⟩ := mem_helperLocals.mp member
    exact identifierOf_local named
      (letters_of_identifier (identifier_of_bare legal bare planned).1)

/-- The lines for the parameters in front of the call declare the locals, which as texts are distinct, and
are other names than those of the parameters and of the locals of every thunk. -/
structure LocalTexts (plan : MemberPlan) (runtime : String) : Prop where
  lines : (plan.params.flatMap fun parameter =>
      (parameter.crossing.beforeCall parameter.ident runtime).1) =
    (plan.params.flatMap (beginParameter runtime)).map Statement.line
  declared : (plan.params.flatMap (beginParameter runtime)).flatMap Statement.declares =
    helperLocals plan
  distinct : (helperLocals plan).Nodup
  fresh : ∀ name ∈ helperLocals plan, name ∉ plan.params.map (·.ident) ++ thunkLocals

/-- The locals of a planned member without raw names do not collide as texts. Where no parameter has a
comment, they do not collide as identifiers exactly when no parameter is the identifier that a local
spells; parameters that are given as bare words never are. -/
theorem helper_locals_apart_iff (planned : decl.plan config = .ok plan)
    (unraw : ∀ parameter ∈ decl.params, Unraw parameter.name) (runtime : String) :
    LocalTexts plan runtime ∧
      ((∀ parameter ∈ plan.params, ¬HasComment parameter.ident) →
        (LocalsApart plan ↔ ∀ parameter ∈ plan.params, ∀ name ∈ helperLocals plan,
          identifierOf? parameter.ident ≠ some name)) ∧
      ((∀ parameter ∈ decl.params, Bare parameter.name) →
        LocalsApart plan ∧ ∀ name ∈ helperLocals plan, identifierOf? name = some name) := by
  obtain ⟨passed, rfl⟩ := plan_ok planned
  have legal := passed_iff_legal.mp passed
  refine ⟨?_, localsApart_iff legal unraw, fun bare => localsApart_of_bare legal bare unraw⟩
  constructor
  case lines => simp only [beforeCall_lines, List.map_flatMap]
  case declared => exact beginParameters_declare _ runtime
  case distinct => exact helperLocals_nodup legal unraw
  case fresh => exact helperLocals_apart legal

/-- The locals of reserved words are named by these words. -/
theorem helper_locals_apart_rename :
    let rename := { Declaration.method Samples.camera "Rename" with
      params := [{ name := "type", type := .bool },
        { name := "self", type := .primitive .i32, mode := .ref },
        { name := "label", type := .str false },
        { name := "target", type := .nativeObject "engine::Camera" false }] }
    let plan := MemberPlan.ofDeclaration rename {}
    rename.plan {} = .ok plan ∧ (∀ parameter ∈ rename.params, Unraw parameter.name) ∧
      (∀ parameter ∈ rename.params, Bare parameter.name) ∧
      helperLocals plan = ["__type_native", "__self__ptr", "__label_native", "__target_handle"] ∧
      LocalTexts plan "runtime" ∧ LocalsApart plan := by
  intro rename plan
  have planned : rename.plan {} = .ok plan := by decide +kernel
  have unraw : ∀ parameter ∈ rename.params, Unraw parameter.name := by decide +kernel
  have bare : ∀ parameter ∈ rename.params, Bare parameter.name := by decide +kernel
  obtain ⟨texts, _, apart⟩ := helper_locals_apart_iff planned unraw "runtime"
  exact ⟨planned, unraw, bare, by decide +kernel, texts, (apart bare).1⟩

/-- A parameter with a blank before its underscores is accepted beside one whose local it stands for. -/
theorem parameter_behind_blank :
    let blend := { Declaration.method Samples.camera "Blend" with
      params := [{ name := "value", type := .bool },
        { name := " __value_native", type := .primitive .i32 }] }
    let plan := MemberPlan.ofDeclaration blend {}
    Config.isValid {} = true ∧ blend.plan {} = .ok plan ∧
      (∀ parameter ∈ blend.params, Unraw parameter.name) ∧
      plan.params.map (·.ident) = ["value", " __value_native"] ∧
      helperLocals plan = ["__value_native"] ∧ ¬LocalsApart plan := by
  intro blend plan
  have locals : helperLocals plan = ["__value_native"] := by decide +kernel
  have idents : plan.params.map (·.ident) = ["value", " __value_native"] := by decide +kernel
  refine ⟨by decide +kernel, by decide +kernel, by decide +kernel, idents, locals, ?_⟩
  intro apart
  apply apart.others "__value_native" (by simp [locals]) " __value_native" (by simp [idents])
  exact ⟨"__value_native", by decide +kernel, by decide +kernel⟩

end NativeThunks.HelperLocals
