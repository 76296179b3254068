import NativeThunks.Proofs.Identifiers
import NativeThunks.Proofs.TypeFronts

/-! Types spelled behind pointers and references, and as optional references. Of a text that is a type by
itself, where a sum of bounds is welcome, it is said here when it is one behind such a front. -/
namespace NativeThunks.SpelledTypes
open BracketedLiterals BracketedTexts BracketedTypes CaseChange ClosingBrackets Grammar GrammarDepth
  Identifiers LexedNames TightTypes TypeFronts

variable {path : String} {trees longer : List Tree} {depth deep : Nat} {form : TypeForm}

private theorem sizes_append (first second : List Tree) :
    sizes (first ++ second) = sizes first + sizes second := by
  induction first with
  | nil => simp [sizes]
  | cons tree rest ih => simp [sizes, ih, Nat.add_assoc]

private theorem depthFor_append (front trees : List Tree) :
    depthFor (front ++ trees) = depthFor trees + 8 * sizes front := by
  simp only [depthFor, sizes_append]
  omega

/-- Deeper rules find the same without sums, where they find a type with sums. -/
theorem left_deep (whole : (toDepth depth).type.run trees = some (form, [])) (le : depth ≤ deep) :
    left? deep false trees = left? depth false trees := by
  have lifted {found : TypeForm × List Tree}
      (found' : (toDepth depth).tightType.run trees = some found) :
      left? deep false trees = left? depth false trees := by
    have deeper := toDepth_deeper le (.type false) _ _ found'
    exact (congrArg (Option.map Prod.snd) deeper).trans (congrArg (Option.map Prod.snd) found').symm
  rcases tight_of_type le whole with ⟨_, _, found, _⟩ | nothing
  · exact lifted found
  · cases found : (toDepth depth).tightType.run trees with
    | some taken => exact lifted found
    | none =>
      exact (congrArg (Option.map Prod.snd) (nothing trees (.inl rfl))).trans
        (congrArg (Option.map Prod.snd) found).symm

/-- In front of the bracket the type is found and leaves it, or there is a plus sign left. -/
theorem left_followed (whole : (toDepth depth).type.run trees = some (form, [])) (le : depth ≤ deep)
    (followed : Followed trees longer) :
    (left? depth false trees = some [] ∧ left? deep false longer = some [closing]) ∨
      left? depth false trees ≠ some [] ∧
        ∀ behind, left? deep false longer = some behind → atMark "+" behind = true := by
  rcases tight_of_type le whole with ⟨form', behind, found, stopped⟩ | nothing
  · obtain ⟨left, found', followed'⟩ := (steady_toDepth depth).type false followed _ _ found
    have deeper := toDepth_deeper le (.type false) _ _ found'
    have here : left? depth false trees = some behind := congrArg (Option.map Prod.snd) found
    have there : left? deep false longer = some left := congrArg (Option.map Prod.snd) deeper
    rcases stopped with rfl | joined
    · cases followed'
      exact .inl ⟨here, there⟩
    · refine .inr ⟨?_, fun rest found => ?_⟩
      · rw [here]
        rintro ⟨⟩
        cases joined
      · obtain ⟨⟩ := there.symm.trans found
        exact (guards_plus.settled followed').trans joined
  · refine .inr ⟨?_, fun rest found => ?_⟩
    · rw [← left_deep whole le, left?, show ((toDepth deep).rule (.type false)).run trees = none from
        nothing trees (.inl rfl)]
      rintro ⟨⟩
    · rw [left?, show ((toDepth deep).rule (.type false)).run longer = none from
        nothing longer (.inr followed)] at found
      cases found

/-- The text is accepted as a type where no sum of bounds is welcome. -/
def isTightType (text : String) : Bool := accepts Rules.tightType text

/-- Whether the text begins with a lifetime. -/
def beginsWithLifetime (text : String) : Bool := (Tree.ofText? text).any atLifetime

/-- Whether the text may stand right behind a pointer or a reference. -/
def FitsBehind (sigil : Sigil) (path : String) : Prop :=
  isTightType path = true ∧ dropByteOrderMark path.toList = path.toList ∧
    (sigil = .reference → beginsWithLifetime path = false)

/-- The trees of a text that is a type. -/
structure WholeType (path : String) (trees : List Tree) : Prop where
  lexed : Tree.ofText? path = some trees
  whole : ∃ form, (toDepth (depthFor trees)).type.run trees = some (form, [])

private theorem accepts_iff {plus : Bool} {text : String} (lexed : Tree.ofText? text = some trees) :
    accepts (·.rule (.type plus)) text = true ↔ left? (depthFor trees) plus trees = some [] := by
  unfold accepts left?
  rw [lexed]
  dsimp only
  rcases ((toDepth (depthFor trees)).rule (.type plus)).run trees with _ | ⟨form, _ | ⟨tree, rest⟩⟩
  · simp
  · simp
  · simp

theorem isType_iff {text : String} (lexed : Tree.ofText? text = some trees) :
    isType text = true ↔ left? (depthFor trees) true trees = some [] := accepts_iff lexed

private theorem isTightType_iff {text : String} (lexed : Tree.ofText? text = some trees) :
    isTightType text = true ↔ left? (depthFor trees) false trees = some [] := accepts_iff lexed

private theorem wholeType_of_isType (accepted : isType path = true) :
    ∃ trees, WholeType path trees := by
  cases lexed : Tree.ofText? path with
  | none =>
    simp only [isType, accepts, lexed] at accepted
    cases accepted
  | some trees =>
    obtain ⟨⟨form, _⟩, ran, ⟨⟩⟩ := Option.map_eq_some_iff.mp ((isType_iff lexed).mp accepted)
    exact ⟨trees, lexed, form, ran⟩

/-- The text behind some pointers and references. -/
def spell : List Sigil → String → String
  | [], path => path
  | sigil :: more, path => sigil.text ++ spell more path

/-- One pointer or reference in front of a type takes nothing but a lifetime at its front. -/
theorem left_last (type : WholeType path trees) (last : Sigil) (joint : Bool) {deep : Nat} (plus : Bool)
    (le : depthFor trees ≤ deep) : left? (deep + 1) plus (last.trees joint ++ trees) =
      if last = .reference ∧ atLifetime trees = true then none
      else left? (depthFor trees) false trees := by
  obtain ⟨form, whole⟩ := type.whole
  split
  · rename_i taken
    obtain ⟨rfl, lifetime⟩ := taken
    exact left_lifetime lifetime (plus_of_lifetime whole lifetime) deep plus joint
  · rename_i kept
    have admitted : last.admits trees = true := by
      cases last with
      | reference =>
        simp only [true_and, Bool.not_eq_true] at kept
        simp [Sigil.admits, kept]
      | _ => rfl
    rw [last.left deep plus joint (not_mutable whole) admitted, left_deep whole le]

private theorem sizes_sigil (sigil : Sigil) (joint : Bool) : 1 ≤ sizes (sigil.trees joint) := by
  cases sigil <;> simp [Sigil.trees, sizes, Tree.size]

private theorem spell_unmarked (last : Sigil) (sigils : List Sigil) (path : String) :
    dropByteOrderMark (spell (sigils ++ [last]) path).toList =
      (spell (sigils ++ [last]) path).toList := by
  cases sigils <;> simp [spell, Sigil.unmarked]

/-- The tokens of a type behind pointers and references, and what the rules leave of them. -/
theorem spell_trees (type : WholeType path trees)
    (unmarked : dropByteOrderMark path.toList = path.toList) (last : Sigil) (sigils : List Sigil) :
    ∃ front, Tree.ofText? (spell (sigils ++ [last]) path) = some (front ++ trees) ∧
      (∃ c joint more, front = .mark c joint :: more) ∧ sigils.length + 1 ≤ sizes front ∧
      ∀ deep plus, depthFor trees ≤ deep → left? (deep + (sigils.length + 1)) plus (front ++ trees) =
        if last = .reference ∧ atLifetime trees = true then none
        else left? (depthFor trees) false trees := by
  induction sigils with
  | nil =>
    obtain ⟨joint, lexed⟩ := last.ofText unmarked type.lexed
    exact ⟨last.trees joint, lexed, by cases last <;> exact ⟨_, _, _, rfl⟩, sizes_sigil last joint,
      fun deep plus => left_last type last joint plus⟩
  | cons sigil sigils ih =>
    obtain ⟨_, lexed, ⟨c, joint, more, rfl⟩, long, all⟩ := ih
    obtain ⟨joint', lexed'⟩ := sigil.ofText (spell_unmarked last sigils path) lexed
    have admitted : sigil.admits (.mark c joint :: more ++ trees) = true := by cases sigil <;> rfl
    have size := sizes_sigil sigil joint'
    refine ⟨sigil.trees joint' ++ .mark c joint :: more, ?_, ?_, ?_, fun deep plus le => ?_⟩
    · rw [List.append_assoc]
      exact lexed'
    · cases sigil <;> exact ⟨_, _, _, rfl⟩
    · rw [sizes_append, List.length_cons]
      omega
    · rw [List.append_assoc]
      exact (sigil.left _ plus joint' rfl admitted).trans (all deep false le)

private theorem spell_unreadable (unreadable : Unreadable path.toList) (last : Sigil)
    (sigils : List Sigil) :
    Tree.ofText? (spell (sigils ++ [last]) path) = none := by
  have all : Unreadable (spell (sigils ++ [last]) path).toList := by
    induction sigils with
    | nil =>
      obtain ⟨joint, takes⟩ := last.takes path.toList
      simpa [spell] using takes.unreadable unreadable
    | cons sigil sigils ih =>
      obtain ⟨joint, takes⟩ := sigil.takes (spell (sigils ++ [last]) path).toList
      simpa [spell] using takes.unreadable ih
  simp only [Tree.ofText?, spell_unmarked, all _, Option.bind_none]

private theorem beginsWithLifetime_of_lexed (lexed : Tree.ofText? path = some trees) :
    beginsWithLifetime path = atLifetime trees := by
  rw [beginsWithLifetime, lexed]
  rfl

/-- Behind pointers and references a text is a type exactly when it may stand behind the last one. -/
theorem isType_spell (accepted : isType path = true) (sigils : List Sigil) (last : Sigil) :
    isType (spell (sigils ++ [last]) path) = true ↔ FitsBehind last path := by
  obtain ⟨trees, type⟩ := wholeType_of_isType accepted
  by_cases unmarked : dropByteOrderMark path.toList = path.toList
  · obtain ⟨front, lexed, _, long, all⟩ := spell_trees type unmarked last sigils
    obtain ⟨spare, enough⟩ : ∃ spare,
        depthFor (front ++ trees) = depthFor trees + spare + (sigils.length + 1) :=
      ⟨8 * sizes front - (sigils.length + 1), by rw [depthFor_append]; omega⟩
    rw [isType_iff lexed, enough, all _ true (Nat.le_add_right _ _), FitsBehind,
      isTightType_iff type.lexed, beginsWithLifetime_of_lexed type.lexed]
    by_cases taken : last = .reference ∧ atLifetime trees = true
    · simp [taken]
    · rw [if_neg taken]
      have kept (reference : last = .reference) : atLifetime trees = false :=
        Bool.eq_false_iff.mpr fun lifetime => taken ⟨reference, lifetime⟩
      exact ⟨fun tight => ⟨tight, unmarked, kept⟩, And.left⟩
  · obtain marked := (dropByteOrderMark_cases path.toList).resolve_left fun same => unmarked same.symm
    have unreadable : Unreadable path.toList := marked ▸ unreadable_mark _
    refine iff_of_false ?_ fun fits => unmarked fits.2.1
    simp [isType, accepts, spell_unreadable unreadable]

private theorem sizes_followed (followed : Followed trees longer) : sizes trees ≤ sizes longer := by
  induction followed with
  | next first second later ih => exact Nat.add_le_add_left ih _
  | _ => simp [sizes, Tree.size]

/-- Behind a plus sign there is no end of generic arguments. -/
theorem plus_apart (joined : atMark "+" trees = true) :
    ¬(atMark ">" trees = true ∨ atMark "," trees = true) := by
  obtain ⟨joint, rest, rfl, _⟩ := atChars_cons joined
  rintro (closed | comma)
  · cases closed
  · cases comma

private theorem left_cases (whole : (toDepth depth).type.run trees = some (form, []))
    {behind : List Tree}
    (found : left? depth false trees = some behind) : behind = [] ∨ atMark "+" behind = true := by
  rcases tight_of_type (Nat.le_refl depth) whole with ⟨_, _, ran, stopped⟩ | nothing
  · obtain ⟨⟩ := (congrArg (Option.map Prod.snd) ran).symm.trans found
    exact stopped
  · obtain ⟨⟩ := (congrArg (Option.map Prod.snd) (nothing trees (.inl rfl))).symm.trans found

private theorem unmarked_append (unmarked : dropByteOrderMark path.toList = path.toList) :
    dropByteOrderMark (path ++ ">").toList = (path ++ ">").toList := by
  rw [String.toList_append]
  cases chars : path.toList with
  | nil => rfl
  | cons c rest =>
    rw [chars] at unmarked
    have other : c ≠ '\ufeff' := by
      rintro rfl
      exact List.cons_ne_self _ _ unmarked.symm
    simp [dropByteOrderMark, other]

/-- The front of an optional reference, with the closing bracket left to the text behind it. -/
theorem takes_optional (path : String) :
    ∃ joint, Takes ("::core::option::Option<&" ++ path ++ ">").toList
      ((optionTrees joint).map .leaf) (path ++ ">").toList := by
  obtain ⟨joint, takes⟩ := takes_option (path ++ ">").toList
  rw [← String.toList_append, ← String.append_assoc] at takes
  exact ⟨joint, takes⟩

private theorem optional_unmarked (path : String) :
    dropByteOrderMark ("::core::option::Option<&" ++ path ++ ">").toList =
      ("::core::option::Option<&" ++ path ++ ">").toList := by
  rw [String.append_assoc, String.toList_append]
  rfl

/-- The tokens of a type in angle brackets. -/
theorem optional_trees (type : WholeType path trees)
    (unmarked : dropByteOrderMark path.toList = path.toList) : ∃ joint longer,
      Tree.ofText? ("::core::option::Option<&" ++ path ++ ">") = some (optionTrees joint ++ longer) ∧
        (OpenEnd path.toList ∧ longer = trees ∨ ¬OpenEnd path.toList ∧ Followed trees longer) := by
  obtain ⟨form, whole⟩ := type.whole
  have lexed := type.lexed
  simp only [Tree.ofText?, unmarked] at lexed
  obtain ⟨longer, lexed', ended⟩ := type_bracketed lexed whole
  have closed : Tree.ofText? (path ++ ">") = some longer := by
    have chars : (path ++ ">").toList = bracketed path.toList := String.toList_append
    simp only [Tree.ofText?, unmarked_append unmarked]
    rw [chars, length_bracketed]
    exact lexed'
  obtain ⟨joint, takes⟩ := takes_optional path
  exact ⟨joint, longer, takes.ofText (optional_unmarked path) (unmarked_append unmarked) closed, ended⟩

/-- What the rules make of an optional reference to a type: the type has to be one without sums, and the
closing bracket has to be there. -/
theorem left_optional {opened : Prop} (type : WholeType path trees)
    (ended : opened ∧ longer = trees ∨ ¬opened ∧ Followed trees longer) (joint : Bool)
    (le : depthFor trees ≤ deep) : left? (deep + 2) true (optionTrees joint ++ longer) = some [] ↔
      (left? (depthFor trees) false trees = some [] ∧ atLifetime trees = false) ∧ ¬opened := by
  obtain ⟨form, whole⟩ := type.whole
  have settled {question : List Tree → Bool} (settled : Settled question) :
      question longer = question trees := extended_settled settled (ended.imp And.right And.right)
  cases lifetime : atLifetime trees with
  | true =>
    have joined : (atLifetime longer && atMark "+" (longer.drop 1)) = true := by
      rw [settled (guards_atLifetime.then guards_plus.settled), lifetime,
        plus_of_lifetime whole lifetime]
      rfl
    obtain ⟨lifetime', joined⟩ := Bool.and_eq_true_iff.mp joined
    have nothing := left_lifetime lifetime' joined deep true joint
    refine iff_of_false (fun found => ?_) (by simp)
    obtain ⟨_, inner, _⟩ := left_of_option found
    obtain ⟨⟩ := nothing.symm.trans inner
  | false =>
    have inner : left? (deep + 1) true (.mark '&' joint :: longer) = left? deep false longer := by
      refine Sigil.reference.left deep true joint ?_ ?_
      · rw [settled (guards_atKeyword _).settled, not_mutable whole]
      · simp [Sigil.admits, settled guards_atLifetime.settled, lifetime]
    rcases ended with ⟨opened, rfl⟩ | ⟨closed, followed⟩
    · refine iff_of_false (fun found => ?_) fun fits => fits.2 opened
      obtain ⟨behind, left, ended⟩ := left_of_option found
      rw [inner, left_deep whole le] at left
      rcases left_cases whole left with rfl | joined
      · rcases ended with ended | ended <;> cases ended
      · exact plus_apart joined ended
    · rcases left_followed whole le followed with ⟨tight, left⟩ | ⟨loose, sums⟩
      · exact iff_of_true (left_option (inner.trans left)) ⟨⟨tight, rfl⟩, closed⟩
      · refine iff_of_false (fun found => ?_) fun fits => loose fits.1.1
        obtain ⟨behind, left, ended⟩ := left_of_option found
        exact plus_apart (sums behind (inner.symm.trans left)) ended

/-- The same behind a reference in angle brackets, where no line comment may be open at the end. -/
theorem isType_optional (accepted : isType path = true) :
    isType ("::core::option::Option<&" ++ path ++ ">") = true ↔
      FitsBehind .reference path ∧ ¬OpenEnd path.toList := by
  obtain ⟨trees, type⟩ := wholeType_of_isType accepted
  by_cases unmarked : dropByteOrderMark path.toList = path.toList
  · obtain ⟨joint, longer, lexed, ended⟩ := optional_trees type unmarked
    have size : sizes trees ≤ sizes longer := by
      rcases ended with ⟨_, rfl⟩ | ⟨_, followed⟩
      · exact Nat.le_refl _
      · exact sizes_followed followed
    obtain ⟨deep, enough⟩ : ∃ deep,
        depthFor (optionTrees joint ++ longer) = depthFor trees + deep + 2 := by
      refine ⟨depthFor (optionTrees joint ++ longer) - depthFor trees - 2, ?_⟩
      simp only [depthFor, sizes_append, optionTrees, sizes, Tree.size]
      omega
    rw [isType_iff lexed, enough, left_optional type ended joint (Nat.le_add_right _ _), FitsBehind,
      isTightType_iff type.lexed, beginsWithLifetime_of_lexed type.lexed]
    simp [unmarked]
  · have marked := (dropByteOrderMark_cases path.toList).resolve_left fun same => unmarked same.symm
    obtain ⟨joint, takes⟩ := takes_optional path
    have unreadable : Unreadable (path ++ ">").toList := by
      rw [String.toList_append, marked]
      exact unreadable_mark _
    refine iff_of_false ?_ fun fits => unmarked fits.1.2.1
    have nothing : Tree.ofText? ("::core::option::Option<&" ++ path ++ ">") = none := by
      simp only [Tree.ofText?, optional_unmarked, takes.unreadable unreadable _, Option.bind_none]
    simp [isType, accepts, nothing]

/-- A word that is no keyword is a type. -/
theorem left_word {name : String} (known : name ∉ keywords) (depth : Nat) (plus : Bool) :
    left? (depth + 1) plus [.word name] = some [] := by
  have other {word : String} (listed : word ∈ keywords) : (name == word) = false :=
    beq_false_of_ne fun same => known (same ▸ listed)
  have quiet {word : String} (listed : word ∈ keywords) : atKeyword word [.word name] = false :=
    other listed
  have free {words : List String} (listed : ∀ word ∈ words, word ∈ keywords) :
      atOneOf words [.word name] = false := by
    simp only [atOneOf, decide_eq_false_iff_not]
    intro member
    exact known (listed name member)
  have begins : atIdentifier [.word name] = true := by simpa [atIdentifier] using known
  have unbound : (binder (toDepth depth)).run [.word name] = some (false, [.word name]) := by
    change (if atKeyword "for" [.word name] then _ else _ : Scan Bool).run _ >>= _ = _
    rw [quiet (by decide)]
    rfl
  have first : (segment (toDepth depth) false).run [.word name] = some ((false, true), []) := by
    unfold Grammar.segment
    rw [ahead_bind, free (by decide), if_neg Bool.false_ne_true]
    rw [ahead_bind, quiet (by decide), if_neg Bool.false_ne_true, StateT.run_bind, identifier_run,
      if_pos begins]
    rfl
  have walked : (path (toDepth depth) false).run [.word name] = some (⟨false, 1, true, true⟩, []) := by
    unfold path
    exact run_bind_iff.mpr ⟨false, _, rfl, run_bind_iff.mpr ⟨(false, true), [], first, rfl⟩⟩
  have type : (typeRule (toDepth depth) plus).run [.word name] =
      some (.path ⟨false, 1, true, true⟩, []) := by
    unfold typeRule
    refine run_bind_iff.mpr ⟨false, _, unbound, ?_⟩
    have function : atOneOf ["fn", "unsafe", "extern"] [.word name] = false := free (by decide)
    rw [get_bind, if_neg (by simp), if_neg (by simp [atGroup]), if_neg (by simp [function]),
      if_pos (by simp [begins])]
    have qualified : (qualifiedPath (toDepth depth) false).run [.word name] =
        some (some ⟨false, 1, true, true⟩, []) :=
      run_bind_iff.mpr ⟨false, _, rfl, run_bind_iff.mpr ⟨_, [], walked, rfl⟩⟩
    refine run_bind_iff.mpr ⟨_, [], qualified, ?_⟩
    cases plus <;> rfl
  exact congrArg (Option.map Prod.snd) type

/-- A plain word is a type, and may stand behind every pointer and reference. -/
theorem word_fits {name : String} (accepted : isIdentifier name = true) (bare : Bare name) :
    isType name = true ∧ ∀ sigil, FitsBehind sigil name := by
  obtain ⟨_, lexed⟩ := word_of_compact accepted fun c member _ => bare c member
  obtain ⟨word, known, same⟩ := trees_of_isIdentifier accepted
  obtain ⟨⟩ := lexed.symm.trans same
  refine ⟨(isType_iff lexed).mpr (left_word known _ true), fun sigil => ⟨?_, ?_, fun _ => ?_⟩⟩
  · exact (isTightType_iff lexed).mpr (left_word known _ false)
  · rcases dropByteOrderMark_cases name.toList with same | marked
    · exact same.symm
    · exact absurd (bare '\ufeff' (marked ▸ List.mem_cons_self)) (by decide)
  · rw [beginsWithLifetime_of_lexed lexed]
    rfl

end NativeThunks.SpelledTypes
