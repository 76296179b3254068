import NativeThunks.Proofs.EmittedPositions
import NativeThunks.Samples

/-! Members of one container with the same entry point or the same function name. Members are judged in
their order, and a member takes its two names only by being emitted: what was skipped stands in nobody's
way. So the emitted members before a position decide whether it is emitted and what is reported about it,
and a skipped member can be taken out of the list without a change for any other. Chains of members that
clash in different names are covered, since nothing is said about how many share a name. -/
namespace NativeThunks.FirstServed
open ContainerOutcomes EmittedPositions PlanStages SelectionRuns

variable {config : Config} {selection : Selection} {members : List Declaration}
  {decl : Declaration} {position : Nat}

/-- What is reported about a member that is judged after some were selected. -/
def reportOn (config : Config) (plans : List MemberPlan) (decl : Declaration) : List Diagnostic :=
  (Selection.add config { plans := plans } decl).diagnostics

/-- The selection that the member at a position is judged beside. -/
def beside (config : Config) (members : List Declaration) (position : Nat) : Selection :=
  .ofMembers config (members.take position)

/-- Whether the member at a position is emitted. -/
def emitsAt (config : Config) (members : List Declaration) (position : Nat) : Bool :=
  members[position]?.any (keeps config (beside config members position))

/-- What is reported about the member at a position. -/
def reportAt (config : Config) (members : List Declaration) (position : Nat) : List Diagnostic :=
  (members[position]?.map (reportOn config (beside config members position).plans)).getD []

/-- The emitted positions in their order. -/
def emittedAt (config : Config) (members : List Declaration) : List Nat :=
  (List.range members.length).filter (emitsAt config members)

/-- A name of a member is that of an emitted member before its position. -/
def Taken (name : Declaration → String) (config : Config) (members : List Declaration)
    (position : Nat) (decl : Declaration) : Prop :=
  ∃ earlier < position, ∃ other, members[earlier]? = some other ∧
    emitsAt config members earlier = true ∧ name other = name decl

/-- How a legal member fares at a position: it is emitted unless one of its names is taken, and if it
is not, there is one diagnostic, about the entry point in the first place. -/
structure Served (config : Config) (members : List Declaration) (position : Nat)
    (decl : Declaration) : Prop where
  emitted_iff : emitsAt config members position = true ↔
    ¬Taken Declaration.entryPoint config members position decl ∧
      ¬Taken Declaration.functionName config members position decl
  silent : emitsAt config members position = true → reportAt config members position = []
  entryPoint : Taken Declaration.entryPoint config members position decl →
    reportAt config members position = [.duplicateEntryPoint decl decl.entryPoint]
  functionName : ¬Taken Declaration.entryPoint config members position decl →
    Taken Declaration.functionName config members position decl →
      reportAt config members position = [.duplicateFunctionName decl decl.functionName]

private theorem keeps_iff : keeps config selection decl = true ↔
    Passed config decl ∧ Fresh selection decl := by
  constructor
  · intro kept
    obtain ⟨passed, fresh, _⟩ := add_of_keeps kept
    exact ⟨passed, fresh⟩
  · rintro ⟨passed, fresh⟩
    exact keeps_of_fresh passed fresh

/-- Nothing of a selection but its plans matters for the next member. -/
theorem keeps_congr {other : Selection} (same : selection.plans = other.plans)
    (decl : Declaration) : keeps config selection decl = keeps config other decl := by
  rw [Bool.eq_iff_iff, keeps_iff, keeps_iff]
  apply and_congr_right
  intro _
  constructor
  · intro fresh
    exact ⟨same ▸ fresh.entryPoint, same ▸ fresh.functionName⟩
  · intro fresh
    exact ⟨same ▸ fresh.entryPoint, same ▸ fresh.functionName⟩

private theorem add_diagnostics (config : Config) (selection : Selection) (decl : Declaration) :
    (selection.add config decl).diagnostics =
      selection.diagnostics ++ reportOn config selection.plans decl := by
  unfold reportOn Selection.add
  cases decl.plan config with
  | error faults => rfl
  | ok plan =>
    dsimp only
    split
    · rfl
    · split
      · rfl
      · exact (List.append_nil _).symm

/-- What is reported about a legal member beside selected ones: a clash of entry points if there is one,
else a clash of function names, else nothing. -/
theorem reportOn_of_passed (passed : Passed config decl) (plans : List MemberPlan) :
    ((∃ plan ∈ plans, plan.symbols.entryPoint = decl.entryPoint) →
        reportOn config plans decl = [.duplicateEntryPoint decl decl.entryPoint]) ∧
      ((¬∃ plan ∈ plans, plan.symbols.entryPoint = decl.entryPoint) →
        ((∃ plan ∈ plans, plan.symbols.functionName = decl.functionName) →
          reportOn config plans decl = [.duplicateFunctionName decl decl.functionName]) ∧
        ((¬∃ plan ∈ plans, plan.symbols.functionName = decl.functionName) →
          reportOn config plans decl = [])) := by
  have report : reportOn config plans decl =
      if plans.any (·.symbols.entryPoint == decl.entryPoint) then
        [.duplicateEntryPoint decl decl.entryPoint]
      else if plans.any (·.symbols.functionName == decl.functionName) then
        [.duplicateFunctionName decl decl.functionName]
      else [] := by
    rcases plan_cases config decl with ⟨_, planned⟩ | ⟨_, refused, _⟩
    · unfold reportOn Selection.add
      rw [planned]
      dsimp only [MemberPlan.ofDeclaration, MemberSymbols.ofDeclaration]
      split
      · rfl
      · split <;> rfl
    · exact absurd refused passed.not_refused
  simp only [List.any_eq_true, beq_iff_eq] at report
  constructor
  · intro taken
    rw [report, if_pos taken]
  · intro free
    constructor
    · intro taken
      rw [report, if_neg free, if_pos taken]
    · intro unused
      rw [report, if_neg free, if_neg unused]

/-- Positions within a list do not see what comes behind it. -/
theorem beside_append (config : Config) (more : List Declaration)
    (inside : position ≤ members.length) :
    beside config (members ++ more) position = beside config members position := by
  rw [beside, beside, List.take_append_of_le_length inside]

private theorem emitsAt_append (config : Config) (more : List Declaration)
    (inside : position < members.length) :
    emitsAt config (members ++ more) position = emitsAt config members position := by
  rw [emitsAt, emitsAt, List.getElem?_append_left inside, beside_append config more inside.le]

private theorem reportAt_append (config : Config) (more : List Declaration)
    (inside : position < members.length) :
    reportAt config (members ++ more) position = reportAt config members position := by
  rw [reportAt, reportAt, List.getElem?_append_left inside, beside_append config more inside.le]

private theorem beside_end (config : Config) (members more : List Declaration) :
    beside config (members ++ more) members.length = .ofMembers config members := by
  rw [beside, List.take_left]

private theorem emittedAt_snoc (config : Config) (members : List Declaration) (decl : Declaration) :
    emittedAt config (members ++ [decl]) = emittedAt config members ++
      if keeps config (.ofMembers config members) decl then [members.length] else [] := by
  have earlier : (List.range members.length).filter (emitsAt config (members ++ [decl])) =
      emittedAt config members :=
    List.filter_congr fun position member => emitsAt_append config [decl] (List.mem_range.mp member)
  have last : emitsAt config (members ++ [decl]) members.length =
      keeps config (.ofMembers config members) decl := by
    rw [emitsAt, beside_end]
    simp
  rw [emittedAt, List.length_append, List.length_singleton, List.range_succ, List.filter_append,
    earlier, List.filter_singleton, last, Bool.cond_eq_ite]

/-- The selected plans are those of the emitted positions. -/
theorem plans_eq (config : Config) (members : List Declaration) :
    (Selection.ofMembers config members).plans =
      (declarationsAt members (emittedAt config members)).map (MemberPlan.ofDeclaration · config) := by
  induction members using List.reverseRecOn with
  | nil => rfl
  | append_singleton members decl ih =>
    have earlier : declarationsAt (members ++ [decl]) (emittedAt config members) =
        declarationsAt members (emittedAt config members) :=
      List.filterMap_congr fun position member =>
        List.getElem?_append_left (List.mem_range.mp (List.mem_of_mem_filter member))
    have split (positions more : List Nat) : declarationsAt (members ++ [decl]) (positions ++ more) =
        declarationsAt (members ++ [decl]) positions ++ declarationsAt (members ++ [decl]) more :=
      List.filterMap_append
    rw [ofMembers_snoc, add_plans, ih, emittedAt_snoc, split, earlier, List.map_append]
    congr 1
    split
    · simp [declarationsAt]
    · rfl

/-- The diagnostics are the reports on all positions in their order. -/
theorem diagnostics_eq (config : Config) (members : List Declaration) :
    (Selection.ofMembers config members).diagnostics =
      (List.range members.length).flatMap (reportAt config members) := by
  induction members using List.reverseRecOn with
  | nil => rfl
  | append_singleton members decl ih =>
    have earlier : (List.range members.length).flatMap (reportAt config (members ++ [decl])) =
        (List.range members.length).flatMap (reportAt config members) :=
      List.flatMap_congr fun position member =>
        reportAt_append config [decl] (List.mem_range.mp member)
    have last : reportAt config (members ++ [decl]) members.length =
        reportOn config (Selection.ofMembers config members).plans decl := by
      rw [reportAt, beside_end]
      simp
    rw [ofMembers_snoc, add_diagnostics, ih, List.length_append, List.length_singleton,
      List.range_succ, List.flatMap_append, earlier, List.flatMap_singleton, last]

/-- The emitted members in front of a position are those that its member is judged beside. -/
theorem taken_iff (name : Declaration → String) (inside : position ≤ members.length) :
    Taken name config members position decl ↔
      ∃ plan ∈ (beside config members position).plans, name plan.decl = name decl := by
  have front {earlier : Nat} (before : earlier < position) :
      (members.take position)[earlier]? = members[earlier]? ∧
        emitsAt config (members.take position) earlier = emitsAt config members earlier := by
    have short : earlier < (members.take position).length := by
      rw [List.length_take]
      omega
    have same := emitsAt_append config (members.drop position) short
    rw [List.take_append_drop] at same
    exact ⟨List.getElem?_take_of_lt before, same.symm⟩
  rw [beside, plans_eq]
  constructor
  · rintro ⟨earlier, before, other, found, emitted, same⟩
    refine ⟨_, List.mem_map_of_mem (List.mem_filterMap.mpr ⟨earlier, ?_, ?_⟩), same⟩
    · refine List.mem_filter.mpr ⟨List.mem_range.mpr ?_, (front before).2.trans emitted⟩
      rw [List.length_take]
      omega
    · exact (front before).1.trans found
  · rintro ⟨plan, listed, same⟩
    obtain ⟨other, member, rfl⟩ := List.mem_map.mp listed
    obtain ⟨earlier, kept, found⟩ := List.mem_filterMap.mp member
    obtain ⟨short, emitted⟩ := List.mem_filter.mp kept
    have before : earlier < position := by
      have := List.mem_range.mp short
      rw [List.length_take] at this
      omega
    exact ⟨earlier, before, other, (front before).1.symm.trans found,
      (front before).2.symm.trans emitted, same⟩

/-- The plans of a selection carry the names of their declarations. -/
theorem plan_names {plan : MemberPlan} (selected : plan ∈ (beside config members position).plans) :
    plan.symbols.entryPoint = plan.decl.entryPoint ∧
      plan.symbols.functionName = plan.decl.functionName := by
  have computed := ((ofMembers_sound config (members.take position)).legal plan selected).2
  rw [computed]
  exact ⟨rfl, rfl⟩

/-- Every legal member is served by the rule. -/
theorem served (found : members[position]? = some decl) (passed : Passed config decl) :
    Served config members position decl := by
  have inside := (List.getElem?_eq_some_iff.mp found).1
  have emits : emitsAt config members position = keeps config (beside config members position) decl := by
    rw [emitsAt, found, Option.any_some]
  have reports : reportAt config members position =
      reportOn config (beside config members position).plans decl := by
    rw [reportAt, found, Option.map_some, Option.getD_some]
  have entryPoints : Taken Declaration.entryPoint config members position decl ↔
      ∃ plan ∈ (beside config members position).plans, plan.symbols.entryPoint = decl.entryPoint := by
    rw [taken_iff _ inside.le]
    exact exists_congr fun plan => and_congr_right fun selected => by rw [(plan_names selected).1]
  have functionNames : Taken Declaration.functionName config members position decl ↔
      ∃ plan ∈ (beside config members position).plans, plan.symbols.functionName = decl.functionName := by
    rw [taken_iff _ inside.le]
    exact exists_congr fun plan => and_congr_right fun selected => by rw [(plan_names selected).2]
  have decided : emitsAt config members position = true ↔
      ¬Taken Declaration.entryPoint config members position decl ∧
        ¬Taken Declaration.functionName config members position decl := by
    rw [emits, keeps_iff, entryPoints, functionNames]
    constructor
    · rintro ⟨_, fresh⟩
      exact ⟨fun ⟨plan, selected, same⟩ => fresh.entryPoint plan selected same,
        fun ⟨plan, selected, same⟩ => fresh.functionName plan selected same⟩
    · rintro ⟨free, unused⟩
      exact ⟨passed, fun plan selected same => free ⟨plan, selected, same⟩,
        fun plan selected same => unused ⟨plan, selected, same⟩⟩
  obtain ⟨entryPoint, free⟩ := reportOn_of_passed passed (beside config members position).plans
  rw [← reports, ← entryPoints, ← functionNames] at free
  rw [← reports, ← entryPoints] at entryPoint
  exact ⟨decided, fun emitted => (free (decided.mp emitted).1).2 (decided.mp emitted).2, entryPoint,
    fun unbound => (free unbound).1⟩

/-- A skipped member makes no difference to what is selected behind it. -/
theorem plans_without (earlier later : List Declaration)
    (skipped : keeps config (.ofMembers config earlier) decl = false) :
    (Selection.ofMembers config (earlier ++ decl :: later)).plans =
      (Selection.ofMembers config (earlier ++ later)).plans := by
  induction later using List.reverseRecOn with
  | nil =>
    rw [ofMembers_snoc, add_plans, skipped, List.append_nil]
    exact List.append_nil _
  | append_singleton later last ih =>
    rw [← List.cons_append, ← List.append_assoc, ← List.append_assoc, ofMembers_snoc, ofMembers_snoc,
      add_plans, add_plans, ih, keeps_congr ih]

/-- Where a position of a list without one member was before. -/
def restored (removed position : Nat) : Nat := if position < removed then position else position + 1

/-- Without a skipped member all others fare as they did. -/
theorem others_unchanged (earlier later : List Declaration)
    (skipped : emitsAt config (earlier ++ decl :: later) earlier.length = false) (position : Nat) :
    emitsAt config (earlier ++ later) position =
        emitsAt config (earlier ++ decl :: later) (restored earlier.length position) ∧
      reportAt config (earlier ++ later) position =
        reportAt config (earlier ++ decl :: later) (restored earlier.length position) := by
  have kept : keeps config (.ofMembers config earlier) decl = false := by
    rw [emitsAt, beside_end] at skipped
    simpa using skipped
  obtain ⟨found, plans⟩ : (earlier ++ later)[position]? =
        (earlier ++ decl :: later)[restored earlier.length position]? ∧
      (beside config (earlier ++ later) position).plans =
        (beside config (earlier ++ decl :: later) (restored earlier.length position)).plans := by
    unfold restored
    split
    · rename_i front
      rw [List.getElem?_append_left front, List.getElem?_append_left front,
        beside_append config later front.le, beside_append config (decl :: later) front.le]
      exact ⟨rfl, rfl⟩
    · rename_i behind
      obtain ⟨offset, rfl⟩ := Nat.exists_eq_add_of_le (Nat.le_of_not_lt behind)
      rw [beside, beside, Nat.add_assoc, List.take_length_add_append, List.take_length_add_append,
        List.take_succ_cons, plans_without earlier (later.take offset) kept,
        List.getElem?_append_right (Nat.le_add_right _ _),
        List.getElem?_append_right (Nat.le_add_right _ _), Nat.add_sub_cancel_left,
        Nat.add_sub_cancel_left, List.getElem?_cons_succ]
      exact ⟨rfl, rfl⟩
  refine ⟨?_, ?_⟩
  · rw [emitsAt, emitsAt, found]
    congr 1
    exact funext (keeps_congr plans)
  · rw [reportAt, reportAt, found, plans]

/-- A container that is accepted has the members at the emitted positions, in their order, and the reports
on all positions for its diagnostics. A legal member is emitted unless an emitted member in front of it has
one of its names, and otherwise has one diagnostic, about the entry point if that is taken and about the
function name if not. A skipped member could be left out without a change for the others. -/
theorem first_come_first_served {container : Container} (accepted : container.fault? = none)
    (members : List Declaration) :
    let answer := generateContainer config container members
    ((answer.1.map (·.members)).getD [] =
        (declarationsAt members (emittedAt config members)).map memberOf) ∧
      answer.2 = (List.range members.length).flatMap (reportAt config members) ∧
      (∀ position decl plan, members[position]? = some decl → decl.plan config = .ok plan →
        Served config members position decl) ∧
      ∀ earlier decl later, members = earlier ++ decl :: later →
        emitsAt config members earlier.length = false →
        ∀ position,
          emitsAt config (earlier ++ later) position =
              emitsAt config members (restored earlier.length position) ∧
            reportAt config (earlier ++ later) position =
              reportAt config members (restored earlier.length position) := by
  intro answer
  have run : answer = (unitOfPlans? config container (Selection.ofMembers config members).plans,
      (Selection.ofMembers config members).diagnostics) := by
    rcases generateContainer_cases config container members with ⟨fault, found, _⟩ | ⟨_, run⟩
    · cases accepted.symm.trans found
    · exact run
  refine ⟨?members, ?diagnostics, ?rule, ?without⟩
  case members =>
    have plans : (Selection.ofMembers config members).plans.map EmittedMember.ofPlan =
        (declarationsAt members (emittedAt config members)).map memberOf := by
      rw [plans_eq, List.map_map]
      rfl
    rw [run, ← plans]
    cases made : unitOfPlans? config container (Selection.ofMembers config members).plans with
    | none => rw [unitOfPlans_none made]; rfl
    | some unit => exact (unitOfPlans_some made).members
  case diagnostics => rw [run, diagnostics_eq]
  case rule =>
    intro position decl plan found planned
    exact served found (plan_ok planned).1
  case without =>
    rintro earlier decl later rfl skipped position
    exact others_unchanged earlier later skipped position

/-- Five members of a camera. The second has the entry point of the first and would have had the function
name of the third, which is emitted because the second is not; the fourth has both names of the third, and
the last one has the function name of the first. -/
theorem first_come_first_served_chain :
    let named (name native : String) : Declaration :=
      { Declaration.method Samples.camera name with nativeName := some native }
    let members := [.method Samples.camera "Render", named "Draw" "Render", named "draw" "Draw",
      .method Samples.camera "Draw", named "render" "RenderAgain"]
    let third := named "draw" "Draw"
    Samples.camera.fault? = none ∧ (∃ plan, third.plan {} = .ok plan) ∧
      Served {} members 2 third ∧ emittedAt {} members = [0, 2] ∧
      (generateContainer {} Samples.camera members).2 =
        [.duplicateEntryPoint (named "Draw" "Render") "Camera_Render",
          .duplicateEntryPoint (.method Samples.camera "Draw") "Camera_Draw",
          .duplicateFunctionName (named "render" "RenderAgain") "render"] := by
  intro named members third
  have accepted : Samples.camera.fault? = none := by decide +kernel
  have planned : third.plan {} = .ok (.ofDeclaration third {}) := by decide +kernel
  obtain ⟨_, _, rule, _⟩ := first_come_first_served accepted members
  exact ⟨accepted, ⟨_, planned⟩, rule 2 third _ rfl planned, by decide +kernel, by decide +kernel⟩

end NativeThunks.FirstServed
