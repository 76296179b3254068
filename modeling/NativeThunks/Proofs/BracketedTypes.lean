import NativeThunks.Proofs.ClosingBrackets

/-! The rules of types in front of a closing angle bracket. Each rule body is made of steps that the
bracket makes no difference to; only where arguments end does a rule look for the bracket itself, and
there something has to stand before it. -/
namespace NativeThunks.BracketedTypes
open ClosingBrackets Grammar GrammarDepth

variable {trees longer : List Tree}

/-- Types and bounds make no difference between the trees with the bracket and without, and are never
empty. -/
structure SteadyRules (g : Rules) : Prop where
  type : ∀ plus, Steady (g.rule (.type plus))
  bound : ∀ captured constants, Steady (g.rule (.bound captured constants))
  typeEmpty : ∀ plus, (g.rule (.type plus)).run [] = none
  boundEmpty : ∀ captured constants, (g.rule (.bound captured constants)).run [] = none

private theorem guards_colon : Guards (atMark ":") 1 := guards_atMark (by decide) (by decide)
theorem guards_path : Guards (atMark "::") 2 := guards_atMark (by decide) (by decide)
theorem guards_plus : Guards (atMark "+") 1 := guards_atMark (by decide) (by decide)
private theorem guards_equals : Guards (atMark "=") 1 := guards_atMark (by decide) (by decide)
private theorem guards_hash : Guards (atMark "#") 1 := guards_atMark (by decide) (by decide)
theorem guards_open : Guards (atMark "<") 1 := guards_atMark (by decide) (by decide)
private theorem guards_question : Guards (atMark "?") 1 := guards_atMark (by decide) (by decide)

private theorem settled_atLiteral : Settled atLiteral := by
  intro trees longer followed
  rw [atLiteral, literalWidth_settled followed]
  rfl

private theorem steady_outerAttributes (g : Rules) : Steady (outerAttributes g) := by
  unfold outerAttributes
  refine steady_loop fun _ => steady_guarded_ahead guards_hash ?_ (steady_pure _)
  exact steady_bind (steady_inside _ _) fun _ => steady_pure _

private theorem steady_constantArgument (g : Rules) : Steady (constantArgument g) := by
  unfold constantArgument
  apply steady_if_ahead settled_atLiteral steady_literal
  exact steady_if_ahead guards_atIdentifier.settled (steady_takeIf guards_atIdentifier)
    (steady_inside _ _)

section
variable {g : Rules} (steady : SteadyRules g)
include steady

private theorem steady_result (plus : Bool) : Steady (result g plus) := by
  unfold result
  refine steady_bind (steady_mark? guards_arrow) fun _ => steady_ite ?_ (steady_pure _)
  exact steady_bind (steady.type plus) fun _ => steady_pure _

private theorem steady_parameterBound : Steady g.parameterBound :=
  steady_bind (steady.bound false true) fun _ => steady_pure _

private theorem parameterBound_empty : g.parameterBound.run [] = none :=
  congrArg (Option.bind · _) (steady.boundEmpty false true)

private theorem steady_genericArgument : Steady (genericArgument g) := by
  have lifetime : Guards (fun trees => atLifetime trees && !atMark "+" (trees.drop 1)) 1 :=
    guards_atLifetime.and_then (settled_not guards_plus.settled)
  have constant : Settled fun trees => atLiteral trees || atGroup .brace trees :=
    settled_or settled_atLiteral (guards_atGroup _).settled
  dsimp only [genericArgument]
  refine steady_get (fun _ _ followed => ?_) fun _ _ followed => ?_
  · have := lifetime.settled followed
    have := constant followed
    simp_all only
  · refine steadyAt_ite (steadyAt_skip lifetime followed) fun _ => ?_
    refine steadyAt_ite (fun _ => steady_constantArgument g followed) fun _ => ?_
    apply steadyAt_bind (steady.type true followed)
    intro form
    cases form with
    | path form =>
      refine steady_ite ?_ (steady_pure _)
      refine steady_bind (steady_mark? guards_equals) fun _ => steady_ite ?_ ?_
      · apply steady_if_ahead constant (steady_constantArgument g)
        exact steady_bind (steady.type true) fun _ => steady_pure _
      · refine steady_bind (steady_mark? guards_colon) fun _ => steady_ite ?_ (steady_pure _)
        refine steady_loop fun _ => steady_ahead_open ?_ ?_ fun _ => steady_ite (steady_pure _) ?_
        · intro trees longer followed occupied
          exact congr (congrArg or (atChar_open ',' followed occupied)) (atChar_open '>' followed occupied)
        · exact congrArg (Option.bind · _) (parameterBound_empty steady)
        · refine steady_bind (steady_parameterBound steady) fun _ => ?_
          exact steady_bind (steady_mark? guards_plus) fun _ => steady_ite (steady_pure _) (steady_pure _)
    | _ => exact steady_pure _

private theorem genericArgument_empty : (genericArgument g).run [] = none :=
  congrArg (Option.bind · _) (steady.typeEmpty true)

private theorem steady_angleArguments : Steady (angleArguments g) := by
  unfold angleArguments
  refine steady_bind (steady_mark guards_open) fun _ => ?_
  refine steady_bind (steady_separated (steady_genericArgument steady) ?_) fun found => ?_
  · exact genericArgument_empty steady
  · exact steady_bind steady_close fun _ => steady_pure _

private theorem steady_segment (expression : Bool) : Steady (segment g expression) := by
  have arguments : Steady (do
      let trees ← get
      if (!expression && atOnly "<" ["<=", "<<="] trees) ||
          (atMark "::" trees && atMark "<" (trees.drop 2)) then
        let _ ← mark? "::"
        let isEmpty ← angleArguments g
        return (true, isEmpty)
      else return (false, true)) := by
    have behind : Settled fun trees => (!expression && atOnly "<" ["<=", "<<="] trees) ||
        (atMark "::" trees && atMark "<" (trees.drop 2)) := by
      refine settled_or (settled_and (fun _ _ _ => rfl) ?_) (guards_path.then guards_open.settled)
      exact settled_atOnly (by decide) (by decide)
    refine steady_if_ahead behind ?_ (steady_pure _)
    refine steady_bind (steady_mark? guards_path) fun _ => ?_
    exact steady_bind (steady_angleArguments steady) fun _ => steady_pure _
  dsimp only [Grammar.segment]
  apply steady_guarded_ahead (guards_atOneOf _) (steady_pure _)
  apply steady_guarded_ahead (guards_atKeyword _) arguments
  exact steady_bind (steady_takeIf guards_atIdentifier) fun _ => arguments

private theorem steady_path (expression : Bool) : Steady (path g expression) := by
  have separator : Settled fun trees => atMark "::" trees && !atGroup .paren (trees.drop 2) :=
    guards_path.then (settled_not (guards_atGroup _).settled)
  unfold path
  refine steady_bind (steady_mark? guards_path) fun _ => ?_
  refine steady_bind (steady_segment steady expression) fun _ => steady_loop fun form => ?_
  refine steady_if_ahead separator ?_ (steady_pure _)
  refine steady_bind (steady_mark guards_path) fun _ => ?_
  exact steady_bind (steady_segment steady expression) fun _ => steady_pure _

omit steady in
/-- The bracket ends what the end of the trees ends. -/
theorem settled_end :
    Settled fun trees => trees.isEmpty || atMark "," trees || atMark ">" trees := by
  intro trees longer followed
  by_cases occupied : trees = []
  · subst occupied
    cases followed
    rfl
  · have longer_occupied : longer ≠ [] := by
      rintro rfl
      exact occupied (List.length_eq_zero_iff.mp (Nat.le_zero.mp followed.length_le))
    have comma : atMark "," longer = atMark "," trees := atChar_open ',' followed occupied
    have bracket : atMark ">" longer = atMark ">" trees := atChar_open '>' followed occupied
    simp only [List.isEmpty_eq_false_iff.mpr occupied, List.isEmpty_eq_false_iff.mpr longer_occupied,
      comma, bracket]

omit steady in
/-- Constraints joined by plus signs, up to something that ends them. -/
theorem steady_constraints {stop : List Tree → Bool} {item : Scan Unit} (settled : Settled stop)
    (constraint : Steady item) : Steady (loop () fun _ => do
      if ← ahead stop then return ((), false)
      item
      if ← mark? "+" then return ((), true) else return ((), false)) := by
  refine steady_loop fun _ => steady_if_ahead settled (steady_pure _) ?_
  refine steady_bind constraint fun _ => steady_bind (steady_mark? guards_plus) fun _ => ?_
  exact steady_ite (steady_pure _) (steady_pure _)

private theorem steady_genericParameter : Steady (genericParameter g) := by
  have typeEnd : Settled fun trees =>
      trees.isEmpty || atMark "," trees || atMark ">" trees || atMark "=" trees :=
    settled_or settled_end guards_equals.settled
  have default : Steady (do
      if ← mark? "=" then
        let _ ← g.type) := by
    refine steady_bind (steady_mark? guards_equals) fun _ => steady_ite ?_ (steady_pure _)
    exact steady_bind (steady.type true) fun _ => steady_pure _
  dsimp only [genericParameter]
  refine steady_bind (steady_outerAttributes g) fun _ => ?_
  refine steady_guarded_ahead guards_atIdentifier ?_ (steady_guarded_ahead guards_atLifetime ?_ ?_)
  · refine steady_bind (steady_mark? guards_colon) fun _ => steady_ite ?_ default
    exact steady_bind (steady_constraints typeEnd (steady_parameterBound steady)) fun _ => default
  · refine steady_bind (steady_mark? guards_colon) fun _ => steady_ite ?_ (steady_pure _)
    exact steady_constraints settled_end (steady_takeIf guards_atLifetime)
  · refine steady_bind (steady_takeIf (guards_atKeyword _)) fun _ => ?_
    refine steady_bind (steady_takeIf guards_atIdentifier) fun _ => ?_
    refine steady_bind (steady_mark guards_colon) fun _ => steady_bind (steady.type true) fun _ => ?_
    refine steady_bind (steady_mark? guards_equals) fun _ => ?_
    exact steady_ite (steady_constantArgument g) (steady_pure _)

omit steady in
private theorem genericParameter_empty (g : Rules) : (genericParameter g).run [] = none := rfl

theorem steady_binder : Steady (binder g) := by
  unfold binder
  refine steady_bind (steady_keyword? _) fun _ => steady_ite ?_ (steady_pure _)
  refine steady_bind (steady_mark guards_open) fun _ => ?_
  refine steady_bind (steady_separated (steady_genericParameter steady) ?_) fun _ => ?_
  · exact genericParameter_empty g
  · exact steady_bind steady_close fun _ => steady_pure _

omit steady in
private theorem steady_captures : Steady captures := by
  have name : Guards (fun trees => atLifetime trees || atIdentifier trees || atKeyword "Self" trees) 1 :=
    guards_or (guards_or guards_atLifetime guards_atIdentifier) (guards_atKeyword _)
  unfold captures
  refine steady_bind (steady_takeIf (guards_atKeyword _)) fun _ => ?_
  refine steady_bind (steady_mark guards_open) fun _ => ?_
  exact steady_bind (steady_separated (steady_takeIf name) rfl) fun _ => steady_close

private theorem steady_trait (constants : Bool) : Steady (trait g constants) := by
  have arguments : Settled fun trees =>
      atGroup .paren trees || (atMark "::" trees && atGroup .paren (trees.drop 2)) :=
    settled_or (guards_atGroup _).settled (guards_path.then (guards_atGroup _).settled)
  have tail (early constant relaxed late : Bool) : Steady (do
      let form ← path g false
      let trees ← get
      if form.lastOpen && (atGroup .paren trees ||
          (atMark "::" trees && atGroup .paren (trees.drop 2))) then
        let _ ← mark? "::"
        let _ ← inside .paren (commas g.type)
        result g false
      if (early || late) && relaxed then failure else return constant) := by
    have last : Steady (if (early || late) && relaxed then failure else pure constant : Scan Bool) :=
      steady_ite steady_failure (steady_pure _)
    apply steady_bind (steady_path steady false)
    intro form
    refine steady_if_ahead (settled_and (fun _ _ _ => rfl) arguments) ?_ last
    refine steady_bind (steady_mark? guards_path) fun _ => steady_bind (steady_inside _ _) fun _ => ?_
    exact steady_bind (steady_result steady false) fun _ => last
  have behind (early constant : Bool) : Steady (do
      let relaxed ← mark? "?"
      let late ← if relaxed && !early then binder g else pure false
      let form ← path g false
      let trees ← get
      if form.lastOpen && (atGroup .paren trees ||
          (atMark "::" trees && atGroup .paren (trees.drop 2))) then
        let _ ← mark? "::"
        let _ ← inside .paren (commas g.type)
        result g false
      if (early || late) && relaxed then failure else return constant) := by
    refine steady_bind (steady_mark? guards_question) fun relaxed => steady_ite ?_ ?_
    · exact steady_bind (steady_binder steady) fun late => tail early constant relaxed late
    · exact tail early constant relaxed false
  unfold trait
  apply steady_bind (steady_binder steady)
  intro early
  refine steady_bind (steady_ahead (guards_atGroup _).settled) fun _ => ?_
  refine steady_bind (steady_keyword? _) fun _ => steady_ite ?_ (steady_ite ?_ (behind early false))
  · refine steady_bind (steady_inside _ _) fun _ => steady_ite (behind early true) ?_
    exact steady_bind steady_failure fun _ => behind early _
  · apply steady_ite (behind early true)
    exact steady_bind steady_failure fun _ => behind early _

private theorem steady_bound (captured constants : Bool) : Steady (bound g captured constants) := by
  have kind (constant : Bool) :
      Steady (pure (if constant then .constant else .trait) : Scan BoundForm) := steady_pure _
  dsimp only [bound]
  refine steady_get (fun _ _ followed => ?_) fun _ _ followed => ?_
  · rw [guards_atLifetime.settled followed, (guards_atKeyword _).settled followed,
      (guards_atGroup _).settled followed]
  · refine steadyAt_ite (fun answered => ?_) fun _ => steadyAt_ite (fun _ => ?_) fun _ => ?_
    · exact steadyAt_bind (steadyAt_skip guards_atLifetime followed answered) fun _ => steady_pure _
    · refine steadyAt_bind (steady_captures followed) fun _ => ?_
      exact steady_ite (steady_pure _) steady_failure
    · refine steadyAt_ite (fun _ => ?_) fun _ => ?_
      · exact steadyAt_bind (steady_inside _ _ followed) kind
      · exact steadyAt_bind (steady_trait steady constants followed) kind

omit steady in
private theorem settled_atBound (constants : Bool) : Settled (atBound constants) := by
  have first : Settled fun trees => atWord trees || atMark "::" trees || atMark "?" trees ||
      atLifetime trees || atGroup .paren trees :=
    settled_or (settled_or (settled_or (settled_or guards_atWord.settled guards_path.settled)
      guards_question.settled) guards_atLifetime.settled) (guards_atGroup _).settled
  exact settled_or first (settled_and (fun _ _ _ => rfl)
    (settled_or (guards_atGroup _).settled (guards_atKeyword _).settled))

private theorem steady_bounds (plus captured constants : Bool) :
    Steady (bounds g plus captured constants) := by
  unfold bounds
  refine steady_loop fun _ => steady_bind (steady.bound captured constants) fun next => ?_
  cases plus with
  | false => exact steady_bind (steady_ahead guards_plus.settled) fun _ => steady_pure _
  | true =>
    refine steady_guarded_ahead guards_plus ?_ (steady_pure _)
    exact steady_if_ahead (settled_atBound _) (steady_pure _) (steady_pure _)

private theorem steady_moreBounds : Steady (moreBounds g) := by
  unfold moreBounds
  refine steady_loop fun _ => steady_bind (steady_mark? guards_plus) fun _ => ?_
  exact steady_ite (steady_bind (steady.bound false false) fun _ => steady_pure _) (steady_pure _)

theorem steady_qualifiedPath (expression : Bool) : Steady (qualifiedPath g expression) := by
  have segments : Steady (do
      mark ">"
      mark "::"
      loop () fun _ => do
        let _ ← segment g expression
        if ← mark? "::" then return ((), true) else return ((), false)
      return (none : Option PathForm)) := by
    refine steady_bind steady_close fun _ => steady_bind (steady_mark guards_path) fun _ => ?_
    refine steady_bind (steady_loop fun _ => ?_) fun _ => steady_pure _
    refine steady_bind (steady_segment steady expression) fun _ => ?_
    exact steady_bind (steady_mark? guards_path) fun _ => steady_ite (steady_pure _) (steady_pure _)
  have plain := steady_bind (steady_path steady expression) fun form => steady_pure (some form)
  unfold qualifiedPath
  refine steady_bind (steady_mark? guards_open) fun _ => steady_ite ?_ plain
  refine steady_bind (steady.type true) fun _ => steady_bind (steady_keyword? _) fun _ => ?_
  exact steady_ite (steady_bind (steady_path steady false) fun _ => segments) segments

omit steady in
private theorem steady_convention : Steady convention := by
  unfold convention
  refine steady_bind (steady_keyword? _) fun _ => steady_ite ?_ (steady_pure _)
  exact steady_skip_ahead guards_atText

private theorem steady_functionPointer : Steady (functionPointer g) := by
  unfold functionPointer
  refine steady_bind (steady_keyword? _) fun _ => steady_bind steady_convention fun _ => ?_
  refine steady_bind (steady_takeIf (guards_atKeyword _)) fun _ => ?_
  exact steady_bind (steady_inside _ _) fun _ => steady_result steady false

private theorem steady_objectBounds (plus : Bool) : Steady (objectBounds g plus) := by
  unfold objectBounds
  exact steady_bind (steady_bounds steady plus false false) fun _ =>
    steady_ite (steady_pure _) steady_failure

private theorem steady_opaqueBounds (plus : Bool) : Steady (opaqueBounds g plus) := by
  unfold opaqueBounds
  exact steady_bind (steady_bounds steady plus true true) fun _ =>
    steady_ite (steady_pure _) steady_failure

private theorem steady_pathBounds : Steady (pathBounds g) := by
  unfold pathBounds
  refine steady_loop fun _ => steady_bind (steady_mark? guards_plus) fun _ => ?_
  refine steady_ite (steady_if_ahead (settled_atBound _) ?_ (steady_pure _)) (steady_pure _)
  exact steady_bind (steady.bound false false) fun _ => steady_pure _

private theorem steady_parenType (plus : Bool) : Steady (parenType g plus) := by
  unfold parenType
  apply steady_bind (steady_inside _ _)
  intro content
  have extended := steady_bind (steady_moreBounds steady) fun count =>
    steady_pure (TypeForm.bounds false (count + 1) false)
  cases content with
  | closed => exact steady_pure _
  | relaxedBound => exact extended
  | single form =>
    refine steady_bind (steady_ahead guards_plus.settled) fun _ => steady_ite ?_ (steady_pure _)
    exact steady_ite extended (steady_pure _)

private theorem steady_pathType (bound plus : Bool) : Steady (pathType g bound plus) := by
  have exclamation : Guards (atMark "!") 1 := guards_atMark (by decide) (by decide)
  have call : Guards (atOnly "!" ["!="]) 1 :=
    { settled := settled_atOnly (by decide) (by decide)
      taken := fun _ _ followed answered =>
        exclamation.taken followed (Bool.and_eq_true_iff.mp answered).1 }
  have extended (form : PathForm) : Steady (do
      if bound || (plus && (← ahead (atMark "+"))) then
        if plus then
          let found ← pathBounds g
          return TypeForm.bounds false found.1 found.2
        else return .bounds false 1 false
      else return .path form) := by
    refine steady_bind (steady_ahead guards_plus.settled) fun _ => steady_ite ?_ (steady_pure _)
    refine steady_ite (steady_bind (steady_pathBounds steady) fun _ => ?_) (steady_pure _)
    exact steady_pure _
  unfold pathType
  apply steady_bind (steady_qualifiedPath steady false)
  intro form
  cases form with
  | none => exact steady_pure _
  | some form =>
    obtain ⟨rooted, segments, plain, lastOpen⟩ := form
    cases plain with
    | false => exact steady_bind (steady_ahead call.settled) fun _ => extended _
    | true =>
      refine steady_guarded_ahead call ?_ (extended _)
      exact steady_bind steady_anyGroup fun _ => steady_pure _

/-- The bracket changes nothing for a type. -/
theorem steady_typeRule (plus : Bool) : Steady (typeRule g plus) := by
  have star : Guards (atMark "*") 1 := guards_atMark (by decide) (by decide)
  have ampersand : Guards (atMark "&") 1 := guards_atMark (by decide) (by decide)
  have exclamation : Guards (atMark "!") 1 := guards_atMark (by decide) (by decide)
  have pointee : Steady (do
      let _ ← g.tightType
      return TypeForm.other) := steady_bind (steady.type false) fun _ => steady_pure _
  have reference : Steady (do
      let _ ← keyword? "mut"
      let _ ← g.tightType
      return TypeForm.other) := steady_bind (steady_keyword? _) fun _ => pointee
  dsimp only [typeRule]
  refine steady_bind (steady_binder steady) fun bound => steady_get (fun _ _ followed => ?_)
    fun trees longer followed => ?_
  · simp only [guards_atIdentifier.settled followed, guards_atLifetime.settled followed,
      fun words => (guards_atOneOf words).settled followed,
      fun word => (guards_atKeyword word).settled followed,
      fun delimiter => (guards_atGroup delimiter).settled followed, guards_path.settled followed,
      guards_open.settled followed, star.settled followed, ampersand.settled followed,
      exclamation.settled followed]
  have taking {question : List Tree → Bool} {next : Scan TypeForm} (guards : Guards question 1)
      (later : Steady next) (answered : question trees = true) :
      SteadyAt (skip 1 >>= fun _ => next) trees longer :=
    steadyAt_bind (steadyAt_skip guards followed answered) fun _ => later
  refine steadyAt_ite (fun _ => steady_failure followed) fun _ => ?_
  refine steadyAt_ite (fun _ => steady_parenType steady plus followed) fun _ => ?_
  refine steadyAt_ite (fun _ => ?_) fun _ => ?_
  · exact steadyAt_bind (steady_functionPointer steady followed) fun _ => steady_pure _
  refine steadyAt_ite (fun _ => steady_pathType steady bound plus followed) fun _ => ?_
  refine steadyAt_ite (taking (guards_atKeyword _) ?_) fun _ => ?_
  · refine steady_bind (steady_mark? star) fun _ => ?_
    exact steady_bind (steady_objectBounds steady plus) fun _ => steady_pure _
  refine steadyAt_ite (fun _ => ?_) fun _ => ?_
  · exact steadyAt_bind (steady_inside _ _ followed) fun _ => steady_pure _
  refine steadyAt_ite (taking star ?_) fun _ => steadyAt_ite (taking ampersand ?_) fun _ => ?_
  · refine steady_bind (steady_keyword? _) fun _ => steady_ite pointee ?_
    exact steady_bind (steady_takeIf (guards_atKeyword _)) fun _ => pointee
  · exact steady_guarded_ahead guards_atLifetime reference reference
  refine steadyAt_ite (taking exclamation (steady_pure _)) fun _ => ?_
  refine steadyAt_ite (taking (guards_atKeyword _) ?_) fun _ => ?_
  · exact steady_bind (steady_opaqueBounds steady plus) fun _ => steady_pure _
  refine steadyAt_ite (taking (guards_atKeyword _) (steady_pure _)) fun _ => ?_
  refine steadyAt_ite (fun _ => ?_) fun _ => steady_failure followed
  exact steadyAt_bind (steady_objectBounds steady true followed) fun _ => steady_pure _

end

/-- The bracket changes nothing for the rules at any depth. -/
theorem steady_toDepth (depth : Nat) : SteadyRules (toDepth depth) := by
  induction depth with
  | zero =>
    exact ⟨fun _ => steady_failure, fun _ _ => steady_failure, fun _ => rfl, fun _ _ => rfl⟩
  | succ depth ih =>
    exact ⟨steady_typeRule ih, steady_bound ih, fun _ => rfl, fun _ _ => rfl⟩

end NativeThunks.BracketedTypes
