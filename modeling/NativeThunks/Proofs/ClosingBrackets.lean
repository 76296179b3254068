import NativeThunks.Proofs.GrammarDepth

/-! Types in front of a closing angle bracket. What the rules of types find in some trees they find as
well where the bracket stands behind the trees, and they leave the bracket. The content of groups is
out of its reach, so only the steps that look at the trees beside a type matter. -/
namespace NativeThunks.ClosingBrackets
open Grammar GrammarDepth

variable {α β : Type} {scan : Scan α} {question other : List Tree → Bool} {width : Nat}
  {trees longer : List Tree}

/-- The bracket at the end of a text. -/
def closing : Tree := .mark '>' false

/-- The second list is the first one with the bracket behind it. A mark in front of the bracket may
be joint with it. Behind a minus sign the bracket would be a part of an arrow; no type takes such a
sign at its end, so there the lists are just the same. -/
inductive Followed : List Tree → List Tree → Prop where
  | here : Followed [] [closing]
  | mark (c : Char) (joint joint' : Bool) (other : c ≠ '-') :
      Followed [.mark c joint] [.mark c joint', closing]
  | tree (tree : Tree) (solid : ∀ c joint, tree ≠ .mark c joint) : Followed [tree] [tree, closing]
  | minus (joint : Bool) : Followed [.mark '-' joint] [.mark '-' joint]
  | next (first second : Tree) {rest longer : List Tree} (later : Followed (second :: rest) longer) :
      Followed (first :: second :: rest) (first :: longer)

theorem Followed.length_le (followed : Followed trees longer) : trees.length ≤ longer.length := by
  induction followed with
  | next first second later ih => exact Nat.succ_le_succ ih
  | _ => simp

/-- A question that has one answer, with the bracket and without. -/
def Settled (question : List Tree → Bool) : Prop :=
  ∀ ⦃trees longer : List Tree⦄, Followed trees longer → question longer = question trees

/-- A settled question that lets the given number of trees be taken, where it is answered by yes. -/
structure Guards (question : List Tree → Bool) (width : Nat) : Prop where
  settled : Settled question
  taken : ∀ ⦃trees longer : List Tree⦄, Followed trees longer → question trees = true →
    Followed (trees.drop width) (longer.drop width)

theorem settled_or (first : Settled question) (second : Settled other) :
    Settled fun trees => question trees || other trees :=
  fun _ _ followed => by simp only [first followed, second followed]

theorem settled_and (first : Settled question) (second : Settled other) :
    Settled fun trees => question trees && other trees :=
  fun _ _ followed => by simp only [first followed, second followed]

theorem settled_not (settled : Settled question) : Settled fun trees => !question trees :=
  fun _ _ followed => congrArg not (settled followed)

theorem guards_or (first : Guards question width) (second : Guards other width) :
    Guards (fun trees => question trees || other trees) width where
  settled := settled_or first.settled second.settled
  taken _ _ followed answered := (Bool.or_eq_true_iff.mp answered).elim (first.taken followed)
    (second.taken followed)

/-- Behind a question that lets trees be taken a settled one may look further. -/
theorem Guards.then (guards : Guards question width) (settled : Settled other) :
    Settled fun trees => question trees && other (trees.drop width) := by
  intro trees longer followed
  cases answered : question trees with
  | true => simp [guards.settled followed, answered, settled (guards.taken followed answered)]
  | false => simp [guards.settled followed, answered]

theorem Guards.and_then (guards : Guards question width) (settled : Settled other) :
    Guards (fun trees => question trees && other (trees.drop width)) width where
  settled := guards.then settled
  taken _ _ followed answered := guards.taken followed (Bool.and_eq_true_iff.mp answered).1

/-- A question about the first tree, which is neither the bracket nor a minus sign. -/
theorem guards_of_first (empty : question [] = false)
    (first : ∀ tree rest, question (tree :: rest) = question [tree])
    (joint : ∀ c joint, question [.mark c joint] = question [.mark c true])
    (bracket : question [closing] = false) (minus : question [.mark '-' true] = false) :
    Guards question 1 := by
  constructor
  · intro trees longer followed
    cases followed with
    | here => rw [bracket, empty]
    | mark c joint₁ joint₂ _ => rw [first, joint c joint₂, joint c joint₁]
    | tree tree _ => exact first tree _
    | minus _ => rfl
    | next first' second later => rw [first, first _ (second :: _)]
  · intro trees longer followed answered
    cases followed with
    | here => exact absurd answered (by simp [empty])
    | mark => exact .here
    | tree tree _ => exact .here
    | minus _ => exact absurd answered (by simp [joint, minus])
    | next first' second later => exact later

theorem guards_atIdentifier : Guards atIdentifier 1 :=
  guards_of_first rfl (fun tree _ => by cases tree <;> rfl) (fun _ _ => rfl) rfl rfl

theorem guards_atWord : Guards atWord 1 :=
  guards_of_first rfl (fun tree _ => by cases tree <;> rfl) (fun _ _ => rfl) rfl rfl

theorem guards_atKeyword (word : String) : Guards (atKeyword word) 1 :=
  guards_of_first rfl (fun tree _ => by cases tree <;> rfl) (fun _ _ => rfl) rfl rfl

theorem guards_atOneOf (words : List String) : Guards (atOneOf words) 1 :=
  guards_of_first rfl (fun tree _ => by cases tree <;> rfl) (fun _ _ => rfl) rfl rfl

theorem guards_atLifetime : Guards atLifetime 1 :=
  guards_of_first rfl (fun tree _ => by cases tree <;> rfl) (fun _ _ => rfl) rfl rfl

theorem guards_atGroup (delimiter : Delimiter) : Guards (atGroup delimiter) 1 :=
  guards_of_first rfl (fun tree _ => by cases tree <;> rfl) (fun _ _ => rfl) rfl rfl

theorem guards_atText : Guards atText 1 := by
  refine guards_of_first rfl (fun tree rest => ?_) (fun _ _ => rfl) rfl rfl
  cases tree with
  | literal value => cases value <;> rfl
  | _ => rfl

/-! Marks -/

theorem atChars_cons {c : Char} {more : List Char} (answered : atChars (c :: more) trees = true) :
    ∃ joint rest, trees = .mark c joint :: rest ∧
      (more = [] ∨ joint = true ∧ atChars more rest = true) := by
  unfold atChars at answered
  split at answered
  · rename_i d found joint rest same
    cases same
    exact ⟨joint, rest, by rw [beq_iff_eq.mp answered], .inl rfl⟩
  · rename_i d more found rest _ same
    cases same
    obtain ⟨here, later⟩ := Bool.and_eq_true_iff.mp answered
    exact ⟨true, rest, by rw [beq_iff_eq.mp here], .inr ⟨rfl, later⟩⟩
  · cases answered

/-- One mark is not seen to be joint. -/
theorem atChar_open (c : Char) (followed : Followed trees longer) (occupied : trees ≠ []) :
    atChars [c] longer = atChars [c] trees := by
  cases followed with
  | here => exact absurd rfl occupied
  | mark d joint joint' other => rfl
  | tree tree solid => cases tree <;> rfl
  | minus joint => rfl
  | next first second later => cases first <;> rfl

private theorem settled_atChars {chars : List Char} (plain : '>' ∉ chars) :
    Settled (atChars chars) := by
  intro trees longer followed
  induction chars generalizing trees longer with
  | nil => rfl
  | cons c more ih =>
    have other : c ≠ '>' := fun same => plain (same ▸ List.mem_cons_self)
    have ih := fun {trees longer} =>
      @ih (fun member => plain (List.mem_cons_of_mem _ member)) trees longer
    cases followed with
    | here => cases more <;> simp [closing, atChars, other.symm]
    | mark d joint joint' _ =>
      have behind := ih .here
      cases more with
      | nil => rfl
      | cons e more => cases joint <;> cases joint' <;> simp [atChars, behind]
    | tree tree solid => cases more <;> cases tree <;> first | rfl | exact absurd rfl (solid _ _)
    | minus joint => rfl
    | next first second later =>
      have behind := ih later
      cases more with
      | nil => cases first <;> rfl
      | cons d more =>
        cases first with
        | mark _ joint => cases joint <;> simp [atChars, behind]
        | _ => rfl

theorem Followed.behind_mark {c : Char} {joint : Bool} {rest : List Tree} (other : c ≠ '-')
    (followed : Followed (.mark c joint :: rest) longer) : Followed rest (longer.drop 1) := by
  cases followed with
  | mark => exact .here
  | tree _ solid => exact absurd rfl (solid c joint)
  | minus => exact absurd rfl other
  | next first second later => exact later

/-- Marks with neither a bracket nor a minus sign in them. -/
theorem guards_atMark {spelling : String} (plain : '>' ∉ spelling.toList)
    (unsigned : '-' ∉ spelling.toList) : Guards (atMark spelling) spelling.length where
  settled := settled_atChars plain
  taken := by
    rw [← String.length_toList]
    unfold atMark
    generalize spelling.toList = chars at unsigned
    intro trees longer followed answered
    induction chars generalizing trees longer with
    | nil => exact followed
    | cons c more ih =>
      have other : c ≠ '-' := fun same => unsigned (same ▸ List.mem_cons_self)
      obtain ⟨joint, rest, rfl, later⟩ := atChars_cons answered
      have behind := followed.behind_mark other
      rcases later with rfl | ⟨_, later⟩
      · exact behind
      · have taken := ih (fun member => unsigned (List.mem_cons_of_mem _ member)) behind later
        simpa [Nat.add_comm] using taken

theorem settled_atOnly {spelling : String} {others : List String} (plain : '>' ∉ spelling.toList)
    (plains : ∀ other ∈ others, '>' ∉ other.toList) : Settled (atOnly spelling others) := by
  apply settled_and (settled_atChars plain)
  intro trees longer followed
  apply Bool.eq_iff_iff.mpr
  simp only [List.all_eq_true]
  exact forall₂_congr fun other member => by
    rw [atMark, atMark, settled_atChars (plains other member) followed]

theorem guards_arrow : Guards (atMark "->") 2 := by
  constructor
  · intro trees longer followed
    cases followed with
    | here => rfl
    | mark c joint joint' other => cases joint <;> cases joint' <;> simp [atMark, atChars, other]
    | tree tree solid => cases tree <;> first | rfl | exact absurd rfl (solid _ _)
    | minus joint => rfl
    | next first second later =>
      have behind := atChar_open '>' later (List.cons_ne_nil _ _)
      cases first with
      | mark c joint => cases joint <;> simp [atMark, atChars, behind]
      | _ => rfl
  · intro trees longer followed answered
    obtain ⟨_, rest, rfl, none | ⟨rfl, arrow⟩⟩ := atChars_cons answered
    · cases none
    · obtain ⟨joint, rest, rfl, _⟩ := atChars_cons arrow
      cases followed with
      | next first second later => exact later.behind_mark (by decide)

/-- What a step finds in some trees it finds in the others, and leaves the same with the bracket behind
it. -/
def SteadyAt (scan : Scan α) (trees longer : List Tree) : Prop :=
  ∀ a behind, scan.run trees = some (a, behind) →
    ∃ left, scan.run longer = some (a, left) ∧ Followed behind left

/-- A step that the bracket makes no difference to. -/
def Steady (scan : Scan α) : Prop :=
  ∀ ⦃trees longer : List Tree⦄, Followed trees longer → SteadyAt scan trees longer

theorem steady_pure (a : α) : Steady (pure a : Scan α) := by
  rintro trees longer followed _ _ ⟨⟩
  exact ⟨longer, rfl, followed⟩

theorem steady_failure : Steady (failure : Scan α) := by
  intro trees longer followed a behind ran
  cases ran

theorem steadyAt_bind {next : α → Scan β} (first : SteadyAt scan trees longer)
    (later : ∀ a, Steady (next a)) : SteadyAt (scan >>= next) trees longer := by
  intro b behind ran
  obtain ⟨a, between, here, there⟩ := run_bind_iff.mp ran
  obtain ⟨between', here', followed⟩ := first a between here
  obtain ⟨behind', there', followed'⟩ := later a followed b behind there
  exact ⟨behind', run_bind_iff.mpr ⟨a, between', here', there'⟩, followed'⟩

theorem steady_bind {next : α → Scan β} (first : Steady scan) (later : ∀ a, Steady (next a)) :
    Steady (scan >>= next) :=
  fun _ _ followed => steadyAt_bind (first followed) later

theorem steadyAt_ite {c : Prop} [Decidable c] {other : Scan α}
    (yes : c → SteadyAt scan trees longer) (no : ¬c → SteadyAt other trees longer) :
    SteadyAt (if c then scan else other) trees longer := by
  split
  · exact yes ‹_›
  · exact no ‹_›

theorem steady_ite {c : Prop} [Decidable c] {other : Scan α} (yes : Steady scan) (no : Steady other) :
    Steady (if c then scan else other) :=
  fun _ _ followed => steadyAt_ite (fun _ => yes followed) (fun _ => no followed)

/-- A step that looks at the trees ahead, where what follows is the same with the bracket. -/
theorem steady_get {next : List Tree → Scan α}
    (same : ∀ ⦃trees longer⦄, Followed trees longer → next longer = next trees)
    (each : ∀ ⦃trees longer⦄, Followed trees longer → SteadyAt (next trees) trees longer) :
    Steady (get >>= next) := by
  intro trees longer followed a behind ran
  obtain ⟨left, there, followed'⟩ := each followed a behind ran
  exact ⟨left, (congrArg (fun scan => scan.run longer) (same followed)).trans there, followed'⟩

theorem steadyAt_skip (guards : Guards question width) (followed : Followed trees longer)
    (answered : question trees = true) : SteadyAt (skip width) trees longer := by
  rintro _ _ ⟨⟩
  exact ⟨longer.drop width, rfl, guards.taken followed answered⟩

/-- Trees are taken where a question is answered by yes, and what follows depends on the answer. -/
theorem steady_guarded {yes : Scan α} {no : Scan α} (guards : Guards question width)
    (taken : Steady yes) (left : Steady no) :
    Steady (do if question (← get) then skip width; yes else no) := by
  apply steady_get (fun _ _ followed => by rw [guards.settled followed])
  intro _ _ followed
  refine steadyAt_ite (fun answered => ?_) fun _ => left followed
  exact steadyAt_bind (steadyAt_skip guards followed answered) fun _ => taken

theorem steady_guarded_ahead {yes : Scan α} {no : Scan α} (guards : Guards question width)
    (taken : Steady yes) (left : Steady no) :
    Steady (do if ← ahead question then skip width; yes else no) :=
  steady_guarded guards taken left

theorem steady_ahead (settled : Settled question) : Steady (ahead question) := by
  rintro trees longer followed _ _ ⟨⟩
  exact ⟨longer, by rw [← settled followed]; rfl, followed⟩

theorem steady_skip_ahead (guards : Guards question width) :
    Steady (do if ← ahead question then skip width) := by
  apply steady_get (fun _ _ followed => by rw [guards.settled followed])
  intro _ _ followed
  exact steadyAt_ite (steadyAt_skip guards followed) fun _ => steady_pure _ followed

theorem steady_if_ahead {yes : Scan α} {no : Scan α} (settled : Settled question) (answered : Steady yes)
    (denied : Steady no) : Steady (do if ← ahead question then yes else no) :=
  steady_bind (steady_ahead settled) fun _ => steady_ite answered denied

theorem steady_takeIf (guards : Guards question 1) : Steady (takeIf question) := by
  apply steady_get (fun _ _ followed => by rw [guards.settled followed])
  intro _ _ followed
  exact steadyAt_ite (steadyAt_skip guards followed) fun _ => steady_failure followed

theorem mark_run (spelling : String) (trees : List Tree) : (mark spelling).run trees =
    if atMark spelling trees = true then some ((), trees.drop spelling.length) else none := by
  change (if atMark spelling trees then skip spelling.length else failure).run trees = _
  split <;> rfl

theorem steady_mark {spelling : String} (guards : Guards (atMark spelling) spelling.length) :
    Steady (mark spelling) := by
  apply steady_get (fun _ _ followed => by rw [guards.settled followed])
  intro _ _ followed
  exact steadyAt_ite (steadyAt_skip guards followed) fun _ => steady_failure followed

theorem steady_mark? {spelling : String} (guards : Guards (atMark spelling) spelling.length) :
    Steady (mark? spelling) :=
  steady_guarded guards (steady_pure _) (steady_pure _)

theorem steady_keyword? (word : String) : Steady (keyword? word) :=
  steady_guarded (guards_atKeyword word) (steady_pure _) (steady_pure _)

/-- The bracket that ends a list of arguments is there before the last one, or nothing is taken. -/
theorem steady_close : Steady (mark ">") := by
  intro trees longer followed
  cases answered : atMark ">" trees with
  | false =>
    intro a behind ran
    rw [mark_run, answered] at ran
    cases ran
  | true =>
    obtain ⟨joint, rest, rfl, _⟩ := atChars_cons answered
    have same := atChar_open '>' followed (List.cons_ne_nil _ _)
    intro a behind ran
    rw [mark_run, answered] at ran
    cases ran
    refine ⟨longer.drop 1, ?_, followed.behind_mark (by decide)⟩
    rw [mark_run, show atMark ">" longer = true from same.trans answered]
    rfl

private theorem literalWidth_mark (c : Char) (joint : Bool) (rest : List Tree) :
    literalWidth (.mark c joint :: rest) = if c = '-' then
      match rest with
      | .literal value :: _ => if value.isNumber then 2 else 0
      | _ => 0
    else 0 := by
  split
  · rename_i sign
    subst sign
    cases rest with
    | nil => rfl
    | cons tree rest => cases tree <;> rfl
  · simp [literalWidth, *]

theorem literalWidth_settled (followed : Followed trees longer) :
    literalWidth longer = literalWidth trees := by
  cases followed with
  | here => rfl
  | mark c joint joint' other => rw [literalWidth_mark, literalWidth_mark, if_neg other,
      if_neg other]
  | tree tree solid => cases tree <;> first | rfl | exact absurd rfl (solid _ _)
  | minus joint => rfl
  | next first second later =>
    cases first with
    | mark c joint =>
      rw [literalWidth_mark, literalWidth_mark]
      cases later with
      | tree second _ => cases second <;> rfl
      | next second _ _ => cases second <;> rfl
      | _ => rfl
    | _ => rfl

/-- A tree that is no mark stays what it is. -/
theorem Followed.behind_tree {tree : Tree} {rest : List Tree} (solid : ∀ c joint, tree ≠ .mark c joint)
    (followed : Followed (tree :: rest) longer) :
    ∃ longer', longer = tree :: longer' ∧ Followed rest longer' := by
  cases followed with
  | mark c joint _ => exact absurd rfl (solid c joint)
  | tree _ _ => exact ⟨_, rfl, .here⟩
  | minus joint => exact absurd rfl (solid _ joint)
  | next _ second later => exact ⟨_, rfl, later⟩

theorem steady_literal : Steady literal := by
  refine steady_get (fun _ _ followed => by rw [literalWidth_settled followed])
    fun trees longer followed => ?_
  refine steadyAt_ite (fun taken => ?_) fun _ => steady_failure followed
  have behind : Followed (trees.drop (literalWidth trees)) (longer.drop (literalWidth trees)) := by
    cases trees with
    | nil => cases taken
    | cons tree rest =>
      cases tree with
      | word name =>
        obtain ⟨longer', rfl, later⟩ := followed.behind_tree (by simp)
        change 0 < (if name == "true" || name == "false" then 1 else 0) at taken
        split at taken
        · rename_i value
          rw [show literalWidth (.word name :: rest) = 1 from if_pos value]
          exact later
        · cases taken
      | literal value =>
        obtain ⟨longer', rfl, later⟩ := followed.behind_tree (by simp)
        exact later
      | mark c joint =>
        rw [literalWidth_mark] at taken ⊢
        split at taken
        · split at taken
          · split at taken
            · rename_i sign _ value others number
              subst sign
              cases followed with
              | next _ _ later =>
                obtain ⟨longer', rfl, behind⟩ := later.behind_tree (by simp)
                simpa [number] using behind
            · cases taken
          · cases taken
        · cases taken
      | _ => cases taken
  rintro _ _ ⟨⟩
  exact ⟨_, rfl, behind⟩

private theorem inside_run (delimiter found : Delimiter) (inner : Scan α) (content rest : List Tree) :
    (inside delimiter inner).run (.group found content :: rest) =
      if found = delimiter then (inner.run content).bind fun taken =>
        if taken.2 = [] then some (taken.1, rest) else none
      else none := by
  by_cases same : found = delimiter
  · simp only [inside, StateT.run_bind, StateT.run_get, pure_bind, same, if_true]
    rcases inner.run content with _ | ⟨result, _ | ⟨tree, left⟩⟩ <;> rfl
  · simp only [inside, StateT.run_bind, StateT.run_get, pure_bind, same, if_false]
    rfl

private theorem inside_run_iff {delimiter : Delimiter} {inner : Scan α} {a : α} {behind : List Tree} :
    (inside delimiter inner).run trees = some (a, behind) ↔
      ∃ content, trees = .group delimiter content :: behind ∧ inner.run content = some (a, []) := by
  constructor
  · intro ran
    cases trees with
    | nil => cases ran
    | cons tree rest =>
      cases tree with
      | group found content =>
        rw [inside_run] at ran
        split at ran
        · rename_i same
          obtain ⟨⟨result, left⟩, taken, ended⟩ := Option.bind_eq_some_iff.mp ran
          split at ended
          · rename_i whole
            obtain rfl : left = [] := whole
            cases ended
            exact ⟨content, by rw [same], taken⟩
          · cases ended
        · cases ran
      | _ => cases ran
  · rintro ⟨content, rfl, found⟩
    rw [inside_run, if_pos rfl, found]
    rfl

theorem steady_inside (delimiter : Delimiter) (inner : Scan α) : Steady (inside delimiter inner) := by
  intro trees longer followed a behind ran
  obtain ⟨content, rfl, found⟩ := inside_run_iff.mp ran
  obtain ⟨longer', rfl, later⟩ := followed.behind_tree (by simp)
  exact ⟨longer', inside_run_iff.mpr ⟨content, rfl, found⟩, later⟩

theorem steady_anyGroup : Steady anyGroup := by
  intro trees longer followed a behind ran
  obtain ⟨delimiter, content, rfl, rfl⟩ : ∃ delimiter content,
      trees = .group delimiter content :: behind ∧ a = (delimiter == .brace) := by
    cases trees with
    | nil => cases ran
    | cons tree rest =>
      cases tree with
      | group delimiter content =>
        cases ran
        exact ⟨delimiter, content, rfl, rfl⟩
      | _ => cases ran
  obtain ⟨longer', rfl, later⟩ := followed.behind_tree (by simp)
  exact ⟨longer', rfl, later⟩

private theorem steady_iterate {step : α → Scan (α × Bool)} (steps : ∀ a, Steady (step a))
    {fuel fuel' : Nat}
    (le : fuel ≤ fuel') (start : α) (followed : Followed trees longer) {a : α} {behind : List Tree}
    (ran : (iterate step fuel start).run trees = some (a, behind)) :
    ∃ left, (iterate step fuel' start).run longer = some (a, left) ∧ Followed behind left := by
  induction fuel generalizing fuel' start trees longer with
  | zero => cases ran
  | succ fuel ih =>
    obtain ⟨fuel', rfl⟩ : ∃ rest, fuel' = rest + 1 := ⟨fuel' - 1, by omega⟩
    obtain ⟨⟨state, more⟩, between, here, there⟩ := run_bind_iff.mp ran
    obtain ⟨between', here', followed'⟩ := steps start followed _ _ here
    cases more with
    | false =>
      cases there
      exact ⟨between', run_bind_iff.mpr ⟨_, between', here', rfl⟩, followed'⟩
    | true =>
      obtain ⟨left, there', followed''⟩ := ih (Nat.le_of_succ_le_succ le) state followed' there
      exact ⟨left, run_bind_iff.mpr ⟨_, between', here', there'⟩, followed''⟩

theorem steady_loop {start : α} {step : α → Scan (α × Bool)} (steps : ∀ a, Steady (step a)) :
    Steady (loop start step) := by
  intro trees longer followed a behind ran
  exact steady_iterate steps (Nat.succ_le_succ followed.length_le) start followed ran

/-- A question that the bracket answers by yes where the trees end, and what follows finds nothing
there. -/
theorem steady_ahead_open {next : Bool → Scan α}
    (settled : ∀ ⦃trees longer⦄, Followed trees longer → trees ≠ [] →
      question longer = question trees)
    (empty : (next (question [])).run [] = none) (later : ∀ answer, Steady (next answer)) :
    Steady (ahead question >>= next) := by
  intro trees longer followed
  by_cases occupied : trees = []
  · subst occupied
    intro a behind ran
    exact absurd (ran.symm.trans empty) (by simp)
  · intro a behind ran
    obtain ⟨left, there, followed'⟩ := later _ followed a behind ran
    refine ⟨left, ?_, followed'⟩
    rw [← settled followed occupied] at there
    exact there

theorem steady_separated {item : Scan α} (steady : Steady item) (empty : item.run [] = none) :
    Steady (separated (atMark ">") "," item) := by
  have comma : Guards (atMark ",") 1 := guards_atMark (by decide) (by decide)
  unfold separated
  refine steady_bind (steady_loop fun found => ?_) fun _ => steady_pure _
  refine steady_ahead_open (fun _ _ => atChar_open '>') ?_ fun stop => steady_ite (steady_pure _) ?_
  · exact congrArg (Option.bind · _) empty
  · apply steady_bind steady
    intro next
    apply steady_ahead_open (fun _ _ => atChar_open '>') rfl
    intro stop
    refine steady_ite (steady_pure _) (steady_bind (steady_mark comma) fun _ => steady_pure _)

end NativeThunks.ClosingBrackets
