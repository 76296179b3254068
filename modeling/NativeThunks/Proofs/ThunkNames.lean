import NativeThunks.Proofs.Identifiers

/-! The names that a thunk declares in one scope: its parameters, its receiver, and the two locals of
every thunk. The checks keep them apart as texts. Said here is when they are apart as identifiers: a
name that is spelled with a raw mark, with blanks or with a comment may stand for the identifier of
another one, and among bare words there is a single such case, a word that is escaped as a parameter
and not as a receiver. -/
namespace NativeThunks.ThunkNames
open CaseChange Grammar Identifiers LexedNames Naming PlanStages ReceiverBinding

variable {config : Config} {decl : Declaration} {plan : MemberPlan}

/-- The names that a thunk declares in its outermost scope. -/
def thunkNames (plan : MemberPlan) : List String :=
  plan.params.map (·.ident) ++ plan.symbols.receiver.toList ++ thunkLocals

private theorem mem_thunkNames {name : String} : name ∈ thunkNames plan ↔
    (∃ parameter ∈ plan.params, parameter.ident = name) ∨ plan.symbols.receiver = some name ∨
      name ∈ thunkLocals := by
  simp [thunkNames]

/-- Names that pass are new one after the other. -/
private theorem parameter_names_taken {idents taken : List String}
    (silent : (decl.parameterNameFaults idents taken).1 = []) :
    (decl.parameterNameFaults idents taken).2 = idents.reverse ++ taken ∧ idents.Nodup ∧
      ∀ ident ∈ idents, ident ∉ taken := by
  induction idents generalizing taken with
  | nil => exact ⟨rfl, List.nodup_nil, by simp⟩
  | cons ident rest ih =>
    simp only [Declaration.parameterNameFaults, List.append_eq_nil_iff] at silent ⊢
    by_cases usable : Declaration.isParameterName ident = true
    · by_cases repeated : ident ∈ taken
      · simp [usable, repeated] at silent
      · simp only [usable, repeated, Bool.not_true, Bool.false_eq_true, ↓reduceIte] at silent ⊢
        obtain ⟨names, distinct, fresh⟩ := ih silent.2
        refine ⟨by simp [names], List.nodup_cons.mpr ⟨?_, distinct⟩, ?_⟩
        · intro member
          exact fresh ident member List.mem_cons_self
        · intro other member
          rcases List.mem_cons.mp member with rfl | member
          · exact repeated
          · intro earlier
            exact fresh other member (List.mem_cons_of_mem _ earlier)
    · simp [usable] at silent

private theorem receiver_apart {receiver : Option String} {taken : List String}
    (silent : decl.receiverFaults receiver taken = []) :
    ∀ name ∈ receiver, name ∉ thunkLocals ∧ name ∉ taken := by
  rintro name (rfl : receiver = some name)
  simp only [Declaration.receiverFaults] at silent
  split at silent
  · cases silent
  · rename_i passes
    simp only [Bool.or_eq_true, Bool.not_eq_eq_eq_not, Bool.not_true, decide_eq_true_eq, not_or] at passes
    exact ⟨passes.1.2, passes.2⟩

/-- A parameter has no name of the kind that is kept for the thunks. -/
private theorem notMem_thunkLocals {ident : String}
    (usable : Declaration.isParameterName ident = true) : ident ∉ thunkLocals := by
  have kept : ∀ name ∈ thunkLocals, Declaration.isParameterName name = false := by decide +kernel
  intro member
  exact absurd usable (Bool.eq_false_iff.mp (kept ident member))

/-- A member without a fault in its names has distinct texts for the names of its thunk. -/
theorem texts_distinct (silent : decl.nameFaults plan = []) : (thunkNames plan).Nodup := by
  have accepted := names_accepted silent
  simp only [Declaration.nameFaults, List.append_eq_nil_iff] at silent
  obtain ⟨⟨⟨_, parameters⟩, receiver⟩, _⟩ := silent
  obtain ⟨taken, distinct, _⟩ := parameter_names_taken parameters
  rw [taken, List.append_nil] at receiver
  have apart := receiver_apart receiver
  have locals : thunkLocals.Nodup := by decide
  rw [thunkNames, List.nodup_append, List.nodup_append]
  refine ⟨⟨distinct, ?_, ?_⟩, locals, ?_⟩
  · cases plan.symbols.receiver <;> simp
  · rintro ident member _ named rfl
    exact (apart ident (Option.mem_toList.mp named)).2 (List.mem_reverse.mpr member)
  · rintro name member _ reserved rfl
    rcases List.mem_append.mp member with member | named
    · obtain ⟨parameter, listed, rfl⟩ := List.mem_map.mp member
      exact notMem_thunkLocals (accepted.parameters parameter listed) reserved
    · exact (apart name (Option.mem_toList.mp named)).1 reserved

private theorem thunkNames_accepted (silent : decl.nameFaults plan = []) :
    ∀ name ∈ thunkNames plan, isIdentifier name = true := by
  have accepted := names_accepted silent
  have locals : ∀ name ∈ thunkLocals, isIdentifier name = true := by decide +kernel
  intro name member
  rcases mem_thunkNames.mp member with ⟨parameter, listed, rfl⟩ | named | reserved
  · exact (Bool.and_eq_true_iff.mp (accepted.parameters parameter listed)).1
  · exact accepted.receiver name named
  · exact locals name reserved

/-- A bare word that is accepted is in canonical spelling, but for the one that is reserved only
here. -/
theorem canonical_of_bare {text : String} (bare : Bare text) (accepted : isIdentifier text = true)
    (other : text ≠ "gen") : Canonical text := by
  obtain ⟨_, lexed⟩ := word_of_compact accepted fun c member _ => bare c member
  obtain ⟨word, known, same⟩ := trees_of_isIdentifier accepted
  obtain rfl : text = word := by simpa using lexed.symm.trans same
  have escaped : ∀ word ∈ pathWords ++ reservedWords, word ∈ keywords ∨ word = "gen" := by decide
  have kept : text ∉ pathWords ++ reservedWords := by
    intro member
    exact (escaped text member).elim known other
  simp only [List.mem_append, not_or] at kept
  exact ⟨(stem_of_bare bare).symm ▸ bare, by simp [stem_of_bare bare, escapeReserved, kept]⟩

example : Canonical "value" ∧ ¬Canonical "gen" ∧ Canonical "r#gen" := by decide +kernel

/-- A parameter that stands for `gen` has this name. -/
private theorem gen_of_identifier {given : String} (bare : Bare given)
    (accepted : isIdentifier (escapeReserved given) = true)
    (named : identifierOf? (escapeReserved given) = some "gen") : given = "gen" := by
  rw [(canonical_escapeReserved bare).identifier accepted, stem_escapeReserved (stem_of_bare bare)] at named
  have lengthened : ∀ word ∈ pathWords, word ++ "_" ≠ "gen" := by decide
  split at named
  · rename_i path
    exact absurd (Option.some.inj named) (lengthened given path)
  · exact Option.some.inj named

/-- The names of the parameters of a planned member are escaped. -/
private theorem mem_idents {name : String} (taken : ∃ parameter ∈
    (MemberPlan.ofDeclaration decl config).params, parameter.ident = name) :
    ∃ parameter ∈ decl.params, escapeReserved parameter.name = name := by
  obtain ⟨_, planned, rfl⟩ := taken
  obtain ⟨parameter, listed, rfl⟩ := List.mem_map.mp planned
  exact ⟨parameter, listed, rfl⟩

/-- Where all names are bare words, only the receiver may be in another spelling than the canonical one,
and then it is `gen`. -/
private theorem receiver_of_stray {name : String}
    (params : ∀ parameter ∈ decl.params, Bare parameter.name)
    (receiver : ∀ receiver ∈ (MemberPlan.ofDeclaration decl config).symbols.receiver, Bare receiver)
    (accepted : isIdentifier name = true) (member : name ∈ thunkNames (.ofDeclaration decl config))
    (stray : ¬Canonical name) :
    (MemberPlan.ofDeclaration decl config).symbols.receiver = some name ∧ name = "gen" := by
  have locals : ∀ name ∈ thunkLocals, Canonical name := by decide +kernel
  rcases mem_thunkNames.mp member with taken | named | reserved
  · obtain ⟨parameter, listed, rfl⟩ := mem_idents taken
    exact absurd (canonical_escapeReserved (params parameter listed)) stray
  · exact ⟨named, by_contra fun other => stray (canonical_of_bare (receiver name named) accepted other)⟩
  · exact absurd (locals name reserved) stray

/-- Bare words are distinct identifiers but for a receiver and a parameter which are both `gen`. -/
theorem bare_distinct_iff (silent : decl.nameFaults (.ofDeclaration decl config) = [])
    (params : ∀ parameter ∈ decl.params, Bare parameter.name)
    (receiver : ∀ receiver ∈ (MemberPlan.ofDeclaration decl config).symbols.receiver, Bare receiver) :
    Distinct (thunkNames (.ofDeclaration decl config)) ↔ ¬("gen" ∈ decl.params.map (·.name) ∧
      (MemberPlan.ofDeclaration decl config).symbols.receiver = some "gen") := by
  have accepted := thunkNames_accepted silent
  have own : identifierOf? "gen" = some "gen" := by decide +kernel
  constructor
  · rintro distinct ⟨taken, named⟩
    obtain ⟨parameter, listed, gen⟩ := List.mem_map.mp taken
    have escaped : "r#gen" ∈ thunkNames (.ofDeclaration decl config) :=
      mem_thunkNames.mpr (.inl ⟨.ofParameter parameter, List.mem_map_of_mem listed,
        congrArg escapeReserved gen⟩)
    have bare : "gen" ∈ thunkNames (.ofDeclaration decl config) :=
      mem_thunkNames.mpr (.inr (.inl named))
    have same : identifierOf? "r#gen" = identifierOf? "gen" := by decide +kernel
    exact absurd (List.inj_on_of_nodup_map distinct escaped bare same) (by decide)
  · intro once
    rw [distinct_iff (texts_distinct silent) accepted]
    intro first member stray second other different
    obtain ⟨named, rfl⟩ := receiver_of_stray params receiver (accepted first member) member stray
    rw [own]
    intro same
    rcases mem_thunkNames.mp other with taken | again | reserved
    · obtain ⟨parameter, listed, rfl⟩ := mem_idents taken
      have gen := gen_of_identifier (params parameter listed) (accepted _ other) same.symm
      exact once ⟨List.mem_map.mpr ⟨parameter, listed, gen⟩, named⟩
    · exact different (Option.some.inj (again.symm.trans named))
    · have locals : ∀ name ∈ thunkLocals, identifierOf? name ≠ some "gen" := by decide +kernel
      exact locals second reserved same.symm

/-- The names of the thunk of a legal member are distinct as texts, and each stands for an identifier.
They are distinct as identifiers exactly when no name in another spelling than the canonical one stands
for a further name. Where all names are given as bare words, this fails in one case only, that of a
receiver and a parameter which are both called `gen`. -/
theorem thunk_names_distinct_iff (planned : decl.plan config = .ok plan) :
    (thunkNames plan).Nodup ∧ (∀ name ∈ thunkNames plan, (identifierOf? name).isSome = true) ∧
      (Distinct (thunkNames plan) ↔ StraysApart (thunkNames plan)) ∧
      ((∀ parameter ∈ decl.params, Bare parameter.name) →
        (∀ receiver ∈ plan.symbols.receiver, Bare receiver) →
        (Distinct (thunkNames plan) ↔
          ¬("gen" ∈ decl.params.map (·.name) ∧ plan.symbols.receiver = some "gen"))) := by
  obtain ⟨passed, rfl⟩ := plan_ok planned
  have texts := texts_distinct passed.names
  have accepted := thunkNames_accepted passed.names
  refine ⟨texts, fun name member => ?_, distinct_iff texts accepted, bare_distinct_iff passed.names⟩
  obtain ⟨identifier, named⟩ := identifierOf_of_isIdentifier (accepted name member)
  exact named ▸ rfl

/-- A reserved word among the parameters is escaped, and the names stay distinct. -/
theorem thunk_names_distinct_viewport :
    let set := { Declaration.method Samples.camera "SetViewport" with
      params := [{ name := "type", type := .primitive .i32 }, { name := "self", type := .bool }] }
    let plan := MemberPlan.ofDeclaration set {}
    set.plan {} = .ok plan ∧ (∀ parameter ∈ set.params, Bare parameter.name) ∧
      (∀ receiver ∈ plan.symbols.receiver, Bare receiver) ∧
      thunkNames plan = ["r#type", "self_", "__this", "__native", "__result"] ∧
      Distinct (thunkNames plan) := by
  intro set plan
  have planned : set.plan {} = .ok plan := by decide +kernel
  have params : ∀ parameter ∈ set.params, Bare parameter.name := by decide +kernel
  have receiver : ∀ receiver ∈ plan.symbols.receiver, Bare receiver := by
    rintro _ ⟨⟩
    decide +kernel
  have absent : ¬("gen" ∈ set.params.map (·.name) ∧ plan.symbols.receiver = some "gen") := by
    decide +kernel
  refine ⟨planned, params, receiver, by decide +kernel, ?_⟩
  exact ((thunk_names_distinct_iff planned).2.2.2 params receiver).mpr absent

/-- Two parameters may be one identifier, of which one is spelled with a raw mark. A local of the thunk
may be spelled so as a parameter, and a receiver may be what a parameter is escaped to. -/
theorem parameter_repeated_raw :
    let blend := { Declaration.method Samples.camera "Blend" with
      params := [{ name := "value", type := .bool }, { name := "r#value", type := .bool }] }
    let look := { Declaration.method Samples.camera "Look" with
      params := [{ name := "r#__native", type := .bool }] }
    let seed := { Declaration.method Samples.camera "Seed" with
      params := [{ name := "gen", type := .bool }]
      thisName := some "gen" }
    Config.isValid {} = true ∧ ∀ decl ∈ [blend, look, seed],
      decl.plan {} = .ok (.ofDeclaration decl {}) ∧
        ¬Distinct (thunkNames (.ofDeclaration decl {})) := by
  decide +kernel

end NativeThunks.ThunkNames
