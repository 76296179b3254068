import NativeThunks.Proofs.BracketedTypes

/-! Types where a plus sign is welcome, and types where it is not. Alone a text may be a sum of bounds;
behind a reference a plus sign ends the type. Where the rules find a type with sums, they find one
without, which either is the same or has a plus sign behind it; or else there is none at any depth. -/
namespace NativeThunks.TightTypes
open BracketedTypes ClosingBrackets Grammar GrammarDepth

variable {α β : Type} {g g' : Rules} {question : List Tree → Bool} {trees longer : List Tree}

/-- The one list of trees is the other, or the other with the bracket behind it. -/
def Extended (trees longer : List Tree) : Prop := longer = trees ∨ Followed trees longer

theorem extended_settled (settled : Settled question) (extended : Extended trees longer) :
    question longer = question trees := by
  rcases extended with rfl | followed
  · rfl
  · exact settled followed

/-- What the one step finds, the other one finds as well, with the bracket behind the trees or
without. -/
def CarriedAt (scan deep : Scan α) (trees : List Tree) : Prop :=
  ∀ a behind, scan.run trees = some (a, behind) → ∀ longer, Extended trees longer →
    ∃ left, deep.run longer = some (a, left) ∧ Extended behind left

theorem carried {scan deep : Scan α} (within : Within scan deep) (steady : Steady scan)
    (trees : List Tree) : CarriedAt scan deep trees := by
  rintro a behind ran longer (rfl | followed)
  · exact ⟨behind, within _ _ ran, .inl rfl⟩
  · obtain ⟨left, there, followed'⟩ := steady followed a behind ran
    exact ⟨left, within _ _ there, .inr followed'⟩

private theorem carried_skip {width : Nat} (guards : Guards question width)
    (answered : question trees = true) :
    CarriedAt (skip width) (skip width) trees := by
  rintro _ _ ⟨⟩ longer (rfl | followed)
  · exact ⟨_, rfl, .inl rfl⟩
  · exact ⟨_, rfl, .inr (guards.taken followed answered)⟩

/-- The second step finds what the first one finds, or leaves a plus sign that the first one takes; or
the third one finds nothing. -/
def TightensAt (loose tight deep : Scan α) (trees : List Tree) : Prop :=
  ∀ a behind, loose.run trees = some (a, behind) →
    (∃ a' behind', tight.run trees = some (a', behind') ∧
      (behind' = behind ∨ atMark "+" behind' = true)) ∨
    ∀ longer, Extended trees longer → deep.run longer = none

private theorem tightens_same (scan deep : Scan α) (trees : List Tree) :
    TightensAt scan scan deep trees :=
  fun a behind ran => .inl ⟨a, behind, ran, .inl rfl⟩

private theorem tightens_bind {first first' : Scan α} {loose tight deep : α → Scan β}
    (carried : CarriedAt first first' trees)
    (later : ∀ a trees, TightensAt (loose a) (tight a) (deep a) trees) :
    TightensAt (first >>= loose) (first >>= tight) (first' >>= deep) trees := by
  intro b behind ran
  obtain ⟨a, between, here, there⟩ := run_bind_iff.mp ran
  rcases later a between b behind there with ⟨b', behind', found, left⟩ | nothing
  · exact .inl ⟨b', behind', run_bind_iff.mpr ⟨a, between, here, found⟩, left⟩
  · refine .inr fun longer extended => ?_
    obtain ⟨left, here', extended'⟩ := carried a between here longer extended
    rw [StateT.run_bind, here']
    exact nothing left extended'

/-- What is done with the results makes no difference. -/
theorem tightens_map {loose tight deep : Scan α} {result result' result'' : α → β}
    (tightens : TightensAt loose tight deep trees) :
    TightensAt (loose >>= fun a => pure (result a)) (tight >>= fun a => pure (result' a))
      (deep >>= fun a => pure (result'' a)) trees := by
  intro b behind ran
  obtain ⟨a, _, here, ⟨⟩⟩ := run_bind_iff.mp ran
  rcases tightens a behind here with ⟨a', behind', found, left⟩ | nothing
  · exact .inl ⟨_, behind', run_bind_iff.mpr ⟨a', behind', found, rfl⟩, left⟩
  · refine .inr fun longer extended => ?_
    rw [StateT.run_bind, nothing longer extended]
    rfl

private theorem tightens_get {loose tight deep : List Tree → Scan α}
    (same : ∀ longer, Extended trees longer → deep longer = deep trees)
    (each : TightensAt (loose trees) (tight trees) (deep trees) trees) :
    TightensAt (get >>= loose) (get >>= tight) (get >>= deep) trees := by
  intro a behind ran
  rcases each a behind ran with found | nothing
  · exact .inl found
  · refine .inr fun longer extended => ?_
    exact (congrArg (fun scan => scan.run longer) (same longer extended)).trans (nothing longer extended)

private theorem tightens_ite {c : Prop} [Decidable c] {loose tight deep loose' tight' deep' : Scan α}
    (yes : c → TightensAt loose tight deep trees) (no : ¬c → TightensAt loose' tight' deep' trees) :
    TightensAt (if c then loose else loose') (if c then tight else tight') (if c then deep else deep')
      trees := by
  split
  · exact yes ‹_›
  · exact no ‹_›

/-- A repetition takes one step, and stops there or goes on. -/
theorem loop_run (start : α) (step : α → Scan (α × Bool)) (trees : List Tree) :
    (loop start step).run trees = (step start >>= fun (state, more) =>
      if more then iterate step trees.length state else pure state).run trees := rfl

/-- Where a plus sign is not welcome there is one bound. -/
theorem bounds_tight_run {captured constants : Bool} {next : BoundForm} {behind : List Tree}
    (ran : (g.rule (.bound captured constants)).run trees = some (next, behind)) :
    (bounds g false captured constants).run trees = some (([next], false), behind) := by
  unfold bounds
  rw [loop_run, run_bind_iff]
  exact ⟨(([next], false), false), behind, run_bind_iff.mpr ⟨next, behind, ran, rfl⟩, rfl⟩

private theorem bounds_loose_run {captured constants : Bool} {found : List BoundForm × Bool}
    {behind : List Tree} (ran : (bounds g true captured constants).run trees = some (found, behind)) :
    ∃ next between, (g.rule (.bound captured constants)).run trees = some (next, between) ∧
      (between = behind ∨ atMark "+" between = true) := by
  unfold bounds at ran
  rw [loop_run, run_bind_iff] at ran
  obtain ⟨⟨state, more⟩, between', step, stopped⟩ := ran
  obtain ⟨next, between, first, second⟩ := run_bind_iff.mp step
  refine ⟨next, between, first, ?_⟩
  cases joined : atMark "+" between with
  | true => exact .inr rfl
  | false =>
    change (if true && atMark "+" between then _ else _ : Scan _).run between = _ at second
    rw [joined] at second
    cases second
    cases stopped
    exact .inl rfl

/-- Bounds of which the first one decides. -/
theorem tightens_bounds (rules : SteadyRules g) (deeper : Deeper g g') (captured constants : Bool)
    (judge : List BoundForm → Bool) (result : List BoundForm × Bool → α) :
    TightensAt
      (bounds g true captured constants >>= fun found =>
        if judge found.1 then pure (result found) else failure)
      (bounds g false captured constants >>= fun found =>
        if judge found.1 then pure (result found) else failure)
      (bounds g' false captured constants >>= fun found =>
        if judge found.1 then pure (result found) else failure) trees := by
  intro a behind ran
  obtain ⟨found, last, several, judged⟩ := run_bind_iff.mp ran
  obtain ⟨next, between, first, left⟩ := bounds_loose_run several
  obtain rfl : last = behind := by
    split at judged
    · cases judged
      rfl
    · cases judged
  by_cases decided : judge [next] = true
  · refine .inl ⟨result ([next], false), between, ?_, left⟩
    exact run_bind_iff.mpr ⟨_, between, bounds_tight_run first, by rw [if_pos decided]; rfl⟩
  · refine .inr fun longer extended => ?_
    obtain ⟨_, first', _⟩ := carried (deeper (.bound captured constants))
      (rules.bound captured constants) trees next between first longer extended
    rw [StateT.run_bind, bounds_tight_run first']
    change (if judge [next] then pure (result ([next], false)) else failure : Scan α).run _ = none
    rw [if_neg decided]
    rfl

private theorem tightens_objectBounds (rules : SteadyRules g) (deeper : Deeper g g') :
    TightensAt (objectBounds g true) (objectBounds g false) (objectBounds g' false) trees :=
  tightens_bounds rules deeper false false hasTrait id

private theorem tightens_opaqueBounds (rules : SteadyRules g) (deeper : Deeper g g') :
    TightensAt (opaqueBounds g true) (opaqueBounds g false) (opaqueBounds g' false) trees :=
  tightens_bounds rules deeper true true
    (fun found => hasTrait found || found.any (· == .constant)) fun _ => ()

private theorem tightens_parenType (deeper : Deeper g g') :
    TightensAt (parenType g true) (parenType g false) (parenType g' false) trees := by
  unfold parenType
  refine tightens_bind (carried (within_inside (parenContent_within deeper)) (steady_inside _ _) _)
    fun content trees => ?_
  cases content with
  | closed => exact tightens_same _ _ _
  | relaxedBound => exact tightens_same _ _ _
  | single form =>
    intro a behind ran
    refine .inl ⟨.other, trees, rfl, ?_⟩
    cases joined : atMark "+" trees with
    | true => exact .inr rfl
    | false =>
      change (if true && atMark "+" trees then _ else _ : Scan TypeForm).run trees = _ at ran
      rw [joined] at ran
      cases ran
      exact .inl rfl

private theorem pathBounds_alone (apart : atMark "+" trees = false) :
    (pathBounds g).run trees = some ((1, false), trees) := by
  unfold pathBounds
  rw [loop_run, run_bind_iff]
  refine ⟨((1, false), false), trees, ?_, rfl⟩
  refine run_bind_iff.mpr ⟨false, trees, ?_, rfl⟩
  change (if atMark "+" trees then _ else _ : Scan Bool).run trees = _
  rw [apart]
  rfl

private theorem tightens_pathType (rules : SteadyRules g) (deeper : Deeper g g') (bound : Bool) :
    TightensAt (pathType g bound true) (pathType g bound false) (pathType g' bound false) trees := by
  unfold pathType
  refine tightens_bind (carried (qualifiedPath_within deeper _) (steady_qualifiedPath rules _) _)
    fun form trees => ?_
  cases form with
  | none => exact tightens_same _ _ _
  | some form =>
    refine tightens_bind (carried (.refl _) (steady_ahead (settled_atOnly (by decide) (by decide))) _)
      fun called trees => tightens_ite (fun _ => tightens_same _ _ _) fun _ => ?_
    intro a behind ran
    refine .inl ⟨if bound then .bounds false 1 false else .path form, trees, by cases bound <;> rfl, ?_⟩
    cases joined : atMark "+" trees with
    | true => exact .inr rfl
    | false =>
      change (if bound || (true && atMark "+" trees) then _ else _ : Scan TypeForm).run trees = _ at ran
      rw [joined] at ran
      cases bound with
      | false =>
        cases ran
        exact .inl rfl
      | true =>
        obtain ⟨_, between, alone, ⟨⟩⟩ := run_bind_iff.mp ran
        rw [pathBounds_alone joined] at alone
        cases alone
        exact .inl rfl

/-- A type where a plus sign is welcome, and one where it is not. -/
theorem tightens_typeRule (rules : SteadyRules g) (deeper : Deeper g g') :
    TightensAt (typeRule g true) (typeRule g false) (typeRule g' false) trees := by
  have star : Guards (atMark "*") 1 := guards_atMark (by decide) (by decide)
  have ampersand : Guards (atMark "&") 1 := guards_atMark (by decide) (by decide)
  have exclamation : Guards (atMark "!") 1 := guards_atMark (by decide) (by decide)
  unfold typeRule
  apply tightens_bind (carried (binder_within deeper) (steady_binder rules) _)
  intro bound trees
  refine tightens_get (fun longer extended => ?_) ?_
  · simp only [extended_settled guards_atIdentifier.settled extended,
      extended_settled guards_atLifetime.settled extended,
      fun words => extended_settled (guards_atOneOf words).settled extended,
      fun word => extended_settled (guards_atKeyword word).settled extended,
      fun delimiter => extended_settled (guards_atGroup delimiter).settled extended,
      extended_settled guards_path.settled extended, extended_settled guards_open.settled extended,
      extended_settled star.settled extended, extended_settled ampersand.settled extended,
      extended_settled exclamation.settled extended]
  have same (scan deep : Scan TypeForm) : TightensAt scan scan deep trees :=
    tightens_same scan deep trees
  refine tightens_ite (fun _ => same _ _) fun _ => ?_
  refine tightens_ite (fun _ => tightens_parenType deeper) fun _ => ?_
  refine tightens_ite (fun _ => same _ _) fun _ => ?_
  refine tightens_ite (fun _ => tightens_pathType rules deeper bound) fun _ => ?_
  refine tightens_ite (fun answered => ?_) fun _ => ?_
  · apply tightens_bind (carried_skip (guards_atKeyword _) answered)
    intro _ trees
    apply tightens_bind (carried (.refl _) (steady_mark? star) _)
    intro starred trees
    exact tightens_map (tightens_objectBounds rules deeper)
  refine tightens_ite (fun _ => same _ _) fun _ => tightens_ite (fun _ => same _ _) fun _ => ?_
  refine tightens_ite (fun _ => same _ _) fun _ => tightens_ite (fun _ => same _ _) fun _ => ?_
  refine tightens_ite (fun answered => ?_) fun _ => ?_
  · apply tightens_bind (carried_skip (guards_atKeyword _) answered)
    intro _ trees
    exact tightens_map (tightens_opaqueBounds rules deeper)
  exact tightens_ite (fun _ => same _ _) fun _ => same _ _

/-- A whole type where a plus sign is welcome: there is one without, up to a plus sign, or none at any
depth. -/
theorem tight_of_type {depth deep : Nat} (le : depth ≤ deep) {form : TypeForm}
    (whole : (toDepth depth).type.run trees = some (form, [])) :
    (∃ form' behind, (toDepth depth).tightType.run trees = some (form', behind) ∧
      (behind = [] ∨ atMark "+" behind = true)) ∨
    ∀ longer, Extended trees longer → (toDepth deep).tightType.run longer = none := by
  obtain _ | depth := depth
  · cases whole
  obtain ⟨deep, rfl⟩ : ∃ rest, deep = rest + 1 := ⟨deep - 1, by omega⟩
  exact tightens_typeRule (steady_toDepth depth) (toDepth_deeper (Nat.le_of_succ_le_succ le)) _ _ whole

end NativeThunks.TightTypes
