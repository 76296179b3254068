import NativeThunks.Generation
import NativeThunks.Proofs.PlanStages
import Mathlib.Data.List.Induction
import Mathlib.Data.List.Nodup

/-! Selection judges the members of a container one after the other. What one step can do is said
once, as an inductive relation; everything about whole runs follows from it by induction on the
members judged so far. -/
namespace NativeThunks.SelectionRuns
open PlanStages

variable {config : Config} {selection : Selection} {decl : Declaration}

/-- The member of a unit that a declaration leads to. It depends on the declaration alone, not on
what was selected before it. -/
def memberOf (decl : Declaration) : EmittedMember where
  name := decl.name
  kind := decl.kind
  functionName := decl.functionName
  entryPoint := decl.entryPoint
  slot := slotName decl.entryPoint

/-- No member selected so far has the entry point or the function name of the declaration. -/
structure Fresh (selection : Selection) (decl : Declaration) : Prop where
  entryPoint : ∀ earlier ∈ selection.plans, earlier.symbols.entryPoint ≠ decl.entryPoint
  functionName : ∀ earlier ∈ selection.plans, earlier.symbols.functionName ≠ decl.functionName

/-- Everything that judging one more member can do to a selection. -/
inductive Judged (config : Config) (selection : Selection) (decl : Declaration) :
    Selection → Prop where
  | illegal (faults : List Diagnostic) (refused : Refused config decl faults) :
      Judged config selection decl ⟨selection.plans, selection.diagnostics ++ faults⟩
  | entryPointTaken (passed : Passed config decl) (earlier : MemberPlan)
      (member : earlier ∈ selection.plans)
      (same : earlier.symbols.entryPoint = decl.entryPoint) :
      Judged config selection decl ⟨selection.plans,
        selection.diagnostics ++ [.duplicateEntryPoint decl decl.entryPoint]⟩
  | functionNameTaken (passed : Passed config decl)
      (free : ∀ other ∈ selection.plans, other.symbols.entryPoint ≠ decl.entryPoint)
      (earlier : MemberPlan) (member : earlier ∈ selection.plans)
      (same : earlier.symbols.functionName = decl.functionName) :
      Judged config selection decl ⟨selection.plans,
        selection.diagnostics ++ [.duplicateFunctionName decl decl.functionName]⟩
  | kept (passed : Passed config decl) (fresh : Fresh selection decl) :
      Judged config selection decl
        ⟨selection.plans ++ [.ofDeclaration decl config], selection.diagnostics⟩

/-- The actual step is one of the four, so no later proof has to open it. -/
theorem add_judged (config : Config) (selection : Selection) (decl : Declaration) :
    Judged config selection decl (selection.add config decl) := by
  unfold Selection.add
  rcases plan_cases config decl with ⟨passed, planned⟩ | ⟨faults, refused, failed⟩
  · simp only [planned]
    split
    · rename_i taken
      obtain ⟨earlier, member, same⟩ := List.any_eq_true.mp taken
      exact .entryPointTaken passed earlier member (beq_iff_eq.mp same)
    · rename_i free
      have free : ∀ other ∈ selection.plans, other.symbols.entryPoint ≠ decl.entryPoint :=
        fun other member same => free (List.any_eq_true.mpr ⟨other, member, beq_iff_eq.mpr same⟩)
      split
      · rename_i taken
        obtain ⟨earlier, member, same⟩ := List.any_eq_true.mp taken
        exact .functionNameTaken passed free earlier member (beq_iff_eq.mp same)
      · rename_i unused
        exact .kept passed ⟨free, fun other member same =>
          unused (List.any_eq_true.mpr ⟨other, member, beq_iff_eq.mpr same⟩)⟩
  · simp only [failed]
    exact .illegal faults refused

/-- A member is kept when judging it adds a plan to the selection. -/
def keeps (config : Config) (selection : Selection) (decl : Declaration) : Bool :=
  decide (selection.plans.length < (selection.add config decl).plans.length)

/-- A kept member is legal, takes no name that is in use, and leaves the diagnostics alone. -/
theorem add_of_keeps (kept : keeps config selection decl = true) :
    Passed config decl ∧ Fresh selection decl ∧
      selection.add config decl =
        ⟨selection.plans ++ [.ofDeclaration decl config], selection.diagnostics⟩ := by
  have grown := of_decide_eq_true kept
  generalize judgement : selection.add config decl = next at grown ⊢
  have judged : Judged config selection decl next := judgement ▸ add_judged config selection decl
  cases judged with
  | illegal faults refused => exact absurd grown (Nat.lt_irrefl _)
  | entryPointTaken passed earlier member same => exact absurd grown (Nat.lt_irrefl _)
  | functionNameTaken passed free earlier member same => exact absurd grown (Nat.lt_irrefl _)
  | kept passed fresh => exact ⟨passed, fresh, rfl⟩

/-- A skipped member leaves the plans alone and at least one diagnostic behind, all of them about
itself. -/
theorem add_of_skips (skipped : keeps config selection decl = false) :
    ∃ faults, faults ≠ [] ∧ (∀ fault ∈ faults, MemberFault decl fault) ∧
      selection.add config decl = ⟨selection.plans, selection.diagnostics ++ faults⟩ := by
  have same := of_decide_eq_false skipped
  generalize judgement : selection.add config decl = next at same ⊢
  have judged : Judged config selection decl next := judgement ▸ add_judged config selection decl
  cases judged with
  | illegal faults refused =>
    exact ⟨faults, refused_ne_nil refused, refused_of_member refused, rfl⟩
  | entryPointTaken passed earlier member taken =>
    refine ⟨_, List.cons_ne_nil _ _, fun fault member => ?_, rfl⟩
    cases List.mem_singleton.mp member
    exact ⟨rfl, rfl⟩
  | functionNameTaken passed free earlier member taken =>
    refine ⟨_, List.cons_ne_nil _ _, fun fault member => ?_, rfl⟩
    cases List.mem_singleton.mp member
    exact ⟨rfl, rfl⟩
  | kept passed fresh => simp at same

/-- A legal member with unused names is kept. -/
theorem keeps_of_fresh (passed : Passed config decl) (fresh : Fresh selection decl) :
    keeps config selection decl = true := by
  apply decide_eq_true
  generalize judgement : selection.add config decl = next
  have judged : Judged config selection decl next := judgement ▸ add_judged config selection decl
  cases judged with
  | illegal faults refused => exact absurd refused passed.not_refused
  | entryPointTaken _ earlier member same => exact absurd same (fresh.entryPoint earlier member)
  | functionNameTaken _ _ earlier member same =>
    exact absurd same (fresh.functionName earlier member)
  | kept _ _ => simp

/-- What one step makes of the plans. -/
theorem add_plans (config : Config) (selection : Selection) (decl : Declaration) :
    (selection.add config decl).plans = selection.plans ++
      if keeps config selection decl then [.ofDeclaration decl config] else [] := by
  cases decided : keeps config selection decl with
  | true =>
    obtain ⟨_, _, added⟩ := add_of_keeps decided
    rw [added, if_pos rfl]
  | false =>
    obtain ⟨faults, _, _, added⟩ := add_of_skips decided
    simp [added]

@[simp] theorem ofMembers_nil : Selection.ofMembers config [] = {} := rfl

@[simp] theorem ofMembers_snoc (config : Config) (members : List Declaration)
    (decl : Declaration) :
    Selection.ofMembers config (members ++ [decl]) =
      (Selection.ofMembers config members).add config decl := by
  simp [Selection.ofMembers]

/-- What the plans of a selection have in common: each is the plan of a legal declaration, and no
two of them share an entry point or a function name. -/
structure Sound (config : Config) (plans : List MemberPlan) : Prop where
  legal : ∀ plan ∈ plans, Passed config plan.decl ∧ plan = .ofDeclaration plan.decl config
  entryPoints : (plans.map (·.symbols.entryPoint)).Nodup
  functionNames : (plans.map (·.symbols.functionName)).Nodup

private theorem sound_snoc (sound : Sound config selection.plans) (passed : Passed config decl)
    (fresh : Fresh selection decl) :
    Sound config (selection.plans ++ [.ofDeclaration decl config]) := by
  constructor
  case legal =>
    intro plan member
    rcases List.mem_append.mp member with earlier | last
    · exact sound.legal plan earlier
    · cases List.mem_singleton.mp last
      exact ⟨passed, rfl⟩
  case entryPoints =>
    rw [List.map_append, List.map_singleton, List.nodup_append]
    refine ⟨sound.entryPoints, List.nodup_singleton _, ?_⟩
    intro name member other last
    obtain ⟨earlier, found, rfl⟩ := List.mem_map.mp member
    rw [List.mem_singleton.mp last]
    exact fresh.entryPoint earlier found
  case functionNames =>
    rw [List.map_append, List.map_singleton, List.nodup_append]
    refine ⟨sound.functionNames, List.nodup_singleton _, ?_⟩
    intro name member other last
    obtain ⟨earlier, found, rfl⟩ := List.mem_map.mp member
    rw [List.mem_singleton.mp last]
    exact fresh.functionName earlier found

/-- One step preserves soundness, whatever it decides about the member. -/
theorem add_sound (sound : Sound config selection.plans) :
    Sound config (selection.add config decl).plans := by
  cases decided : keeps config selection decl with
  | true =>
    obtain ⟨passed, fresh, added⟩ := add_of_keeps decided
    rw [added]
    exact sound_snoc sound passed fresh
  | false =>
    obtain ⟨faults, _, _, added⟩ := add_of_skips decided
    rw [added]
    exact sound

/-- The plans of every run are sound. -/
theorem ofMembers_sound (config : Config) (members : List Declaration) :
    Sound config (Selection.ofMembers config members).plans := by
  induction members using List.reverseRecOn with
  | nil => exact ⟨fun plan member => absurd member List.not_mem_nil, List.nodup_nil, List.nodup_nil⟩
  | append_singleton members decl ih =>
    rw [ofMembers_snoc]
    exact add_sound ih

/-- The members that sound plans lead to depend on the planned declarations alone. -/
theorem sound_members {plans : List MemberPlan} (sound : Sound config plans) :
    plans.map EmittedMember.ofPlan = (plans.map (·.decl)).map memberOf := by
  rw [List.map_map]
  apply List.map_congr_left
  intro plan planned
  rw [(sound.legal plan planned).2]
  rfl

/-- Selection neither reorders nor repeats members. -/
theorem plans_sublist (config : Config) (members : List Declaration) :
    ((Selection.ofMembers config members).plans.map (·.decl)).Sublist members := by
  induction members using List.reverseRecOn with
  | nil => exact List.Sublist.slnil
  | append_singleton members decl ih =>
    rw [ofMembers_snoc]
    cases decided : keeps config (Selection.ofMembers config members) decl with
    | true =>
      obtain ⟨_, _, added⟩ := add_of_keeps decided
      rw [added, List.map_append]
      exact ih.append (List.Sublist.refl [decl])
    | false =>
      obtain ⟨faults, _, _, added⟩ := add_of_skips decided
      rw [added]
      exact ih.trans (List.sublist_append_left _ _)

/-- Every diagnostic of a run is about a member that it judged. -/
theorem diagnostics_of_members (config : Config) (members : List Declaration) :
    ∀ fault ∈ (Selection.ofMembers config members).diagnostics,
      ∃ decl ∈ members, MemberFault decl fault := by
  induction members using List.reverseRecOn with
  | nil =>
    intro fault member
    cases member
  | append_singleton members decl ih =>
    intro fault member
    rw [ofMembers_snoc] at member
    cases decided : keeps config (Selection.ofMembers config members) decl with
    | true =>
      obtain ⟨_, _, added⟩ := add_of_keeps decided
      rw [added] at member
      obtain ⟨judged, found, about⟩ := ih fault member
      exact ⟨judged, List.mem_append_left _ found, about⟩
    | false =>
      obtain ⟨faults, _, about, added⟩ := add_of_skips decided
      rw [added] at member
      rcases List.mem_append.mp member with earlier | new
      · obtain ⟨judged, found, about⟩ := ih fault earlier
        exact ⟨judged, List.mem_append_left _ found, about⟩
      · exact ⟨decl, List.mem_append_right _ (List.mem_singleton_self _), about fault new⟩

/-- A run is silent exactly when it kept everything. -/
theorem diagnostics_nil_iff (config : Config) (members : List Declaration) :
    (Selection.ofMembers config members).diagnostics = [] ↔
      (Selection.ofMembers config members).plans.length = members.length := by
  induction members using List.reverseRecOn with
  | nil => simp
  | append_singleton members decl ih =>
    rw [ofMembers_snoc]
    cases decided : keeps config (Selection.ofMembers config members) decl with
    | true =>
      obtain ⟨_, _, added⟩ := add_of_keeps decided
      rw [added]
      simp [ih]
    | false =>
      obtain ⟨faults, loud, _, added⟩ := add_of_skips decided
      have bound := (plans_sublist config members).length_le
      rw [List.length_map] at bound
      rw [added]
      simp only [List.append_eq_nil_iff, loud, and_false, List.length_append,
        List.length_singleton, false_iff]
      omega

private theorem add_extends (config : Config) (selection : Selection) (decl : Declaration) :
    selection.plans <+: (selection.add config decl).plans ∧
      selection.diagnostics <+: (selection.add config decl).diagnostics := by
  cases decided : keeps config selection decl with
  | true =>
    obtain ⟨_, _, added⟩ := add_of_keeps decided
    rw [added]
    exact ⟨List.prefix_append _ _, List.prefix_refl _⟩
  | false =>
    obtain ⟨faults, _, _, added⟩ := add_of_skips decided
    rw [added]
    exact ⟨List.prefix_refl _, List.prefix_append _ _⟩

/-- Later members never take back what was decided about earlier ones. -/
theorem ofMembers_extends (config : Config) (members more : List Declaration) :
    (Selection.ofMembers config members).plans <+:
        (Selection.ofMembers config (members ++ more)).plans ∧
      (Selection.ofMembers config members).diagnostics <+:
        (Selection.ofMembers config (members ++ more)).diagnostics := by
  induction more using List.reverseRecOn with
  | nil => simp
  | append_singleton more decl ih =>
    rw [← List.append_assoc, ofMembers_snoc]
    obtain ⟨plans, diagnostics⟩ := add_extends config (Selection.ofMembers config (members ++ more)) decl
    exact ⟨ih.1.trans plans, ih.2.trans diagnostics⟩

/-- Judging the declarations of sound plans keeps all of them, in their order and without a
diagnostic: a plan that was kept beside others is kept beside fewer. -/
theorem ofMembers_of_sound (plans : List MemberPlan) (sound : Sound config plans) :
    Selection.ofMembers config (plans.map (·.decl)) = ⟨plans, []⟩ := by
  induction plans using List.reverseRecOn with
  | nil => rfl
  | append_singleton plans plan ih =>
    have entryPoints := sound.entryPoints
    have functionNames := sound.functionNames
    rw [List.map_append, List.map_singleton, List.nodup_append] at entryPoints functionNames
    have before : Sound config plans :=
      ⟨fun other member => sound.legal other (List.mem_append_left _ member),
        entryPoints.1, functionNames.1⟩
    obtain ⟨passed, computed⟩ := sound.legal plan (List.mem_append_right _ (List.mem_singleton_self _))
    have fresh : Fresh ⟨plans, []⟩ plan.decl := by
      constructor
      · intro earlier member same
        apply entryPoints.2.2 _ (List.mem_map_of_mem member) _ (List.mem_singleton_self _)
        rw [computed]
        exact same
      · intro earlier member same
        apply functionNames.2.2 _ (List.mem_map_of_mem member) _ (List.mem_singleton_self _)
        rw [computed]
        exact same
    rw [List.map_append, List.map_singleton, ofMembers_snoc, ih before,
      (add_of_keeps (keeps_of_fresh passed fresh)).2.2, ← computed]

/-- Selecting once more from what a run kept changes nothing. -/
theorem ofMembers_kept (config : Config) (members : List Declaration) :
    Selection.ofMembers config ((Selection.ofMembers config members).plans.map (·.decl)) =
      ⟨(Selection.ofMembers config members).plans, []⟩ :=
  ofMembers_of_sound _ (ofMembers_sound config members)

end NativeThunks.SelectionRuns
