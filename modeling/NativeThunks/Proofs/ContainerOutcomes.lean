import NativeThunks.Proofs.PathOrder
import Mathlib.Data.List.Induction

/-! What one container comes to by itself, and how the outcomes of several containers are put
together. A unit is left out of a generation only for the sake of its file, and the first path that
wants a file gets it. The closed form below says so for every increasing list of paths; whole
generations and generations of a single container are two instances of it. -/
namespace NativeThunks.ContainerOutcomes
open PathOrder

variable {config : Config} {set : DeclarationSet} {generation : Generation}

/-- What the declarations with a path come to when nothing else is generated. -/
def outcome (config : Config) (set : DeclarationSet) (path : String) :
    Option GeneratedUnit × List Diagnostic :=
  match set.membersOf path with
  | [] => (none, [])
  | first :: rest => generateContainer config first.container (first :: rest)

/-- The unit that a path has by itself. -/
def standalone? (config : Config) (set : DeclarationSet) (path : String) : Option GeneratedUnit :=
  (outcome config set path).1

/-- The diagnostics that a path has by itself. -/
def findings (config : Config) (set : DeclarationSet) (path : String) : List Diagnostic :=
  (outcome config set path).2

/-- What a path comes to depends on its members alone. -/
theorem outcome_congr {set other : DeclarationSet} {path : String}
    (same : other.membersOf path = set.membersOf path) :
    outcome config other path = outcome config set path := by
  rw [outcome, outcome, same]

/-- A unit carries the names of its container and one member for every plan. -/
structure UnitOf (container : Container) (plans : List MemberPlan) (unit : GeneratedUnit) :
    Prop where
  path : unit.path = container.path
  name : unit.name = container.name
  nativeType : unit.nativeType = container.nativeTypeName
  fileName : unit.fileName = container.unitFile
  members : unit.members = plans.map .ofPlan
  occupied : plans ≠ []

theorem unitOfPlans_some {container : Container} {plans : List MemberPlan} {unit : GeneratedUnit}
    (made : unitOfPlans? config container plans = some unit) : UnitOf container plans unit := by
  unfold unitOfPlans? at made
  split at made
  · cases made
  · rename_i occupied
    cases made
    exact ⟨rfl, rfl, rfl, rfl, rfl, fun empty => occupied (List.isEmpty_iff.mpr empty)⟩

/-- A unit has the text and the wrappers of the thunks of its plans. -/
theorem unitOfPlans_thunks {container : Container} {plans : List MemberPlan} {unit : GeneratedUnit}
    (made : unitOfPlans? config container plans = some unit) :
    unit.wrappers = (ThunkList.ofPlans config plans).wrappers.entries ∧
      unit.source =
        (ThunkList.ofPlans config plans).source config container container.nativeTypeName := by
  unfold unitOfPlans? at made
  split at made
  · cases made
  · cases made
    exact ⟨rfl, rfl⟩

theorem unitOfPlans_none {container : Container} {plans : List MemberPlan}
    (made : unitOfPlans? config container plans = none) : plans = [] := by
  unfold unitOfPlans? at made
  split at made
  · rename_i empty
    exact List.isEmpty_iff.mp empty
  · cases made

/-- Whether plans make a unit does not depend on the configuration. -/
theorem unitOfPlans_isSome (config : Config) (container : Container) (plans : List MemberPlan) :
    (unitOfPlans? config container plans).isSome = !plans.isEmpty := by
  cases empty : plans.isEmpty <;> simp [unitOfPlans?, empty]

/-- A container is either refused as a whole, with one diagnostic, or its members are selected. -/
theorem generateContainer_cases (config : Config) (container : Container)
    (members : List Declaration) :
    (∃ fault, container.fault? = some fault ∧
        generateContainer config container members = (none, [fault])) ∨
      container.fault? = none ∧ generateContainer config container members =
        (unitOfPlans? config container (Selection.ofMembers config members).plans,
          (Selection.ofMembers config members).diagnostics) := by
  unfold generateContainer
  cases container.fault? with
  | none => exact .inr ⟨rfl, rfl⟩
  | some fault => exact .inl ⟨fault, rfl, rfl⟩

/-- A container's own fault names the container and no member. -/
theorem fault_location {container : Container} {fault : Diagnostic}
    (found : container.fault? = some fault) : fault.location = .ofContainer container := by
  unfold Container.fault? at found
  split at found
  · cases found
    rfl
  · split at found
    · cases found
      rfl
    · split at found
      · cases found
        rfl
      · split at found
        · cases found
          rfl
        · cases found

/-- A path comes to what its first declaration's container comes to, with all members of the path:
one fault and no unit, or a selection of the members. -/
theorem outcome_cases (config : Config) {set : DeclarationSet} {path : String} {first : Declaration}
    (head : (set.membersOf path).head? = some first) :
    (∃ fault, first.container.fault? = some fault ∧ standalone? config set path = none ∧
        findings config set path = [fault]) ∨
      first.container.fault? = none ∧
        standalone? config set path = unitOfPlans? config first.container
          (Selection.ofMembers config (set.membersOf path)).plans ∧
        findings config set path =
          (Selection.ofMembers config (set.membersOf path)).diagnostics := by
  obtain ⟨rest, members⟩ := List.head?_eq_some_iff.mp head
  have ran : outcome config set path = generateContainer config first.container (first :: rest) := by
    simp [outcome, members]
  rw [standalone?, findings, ran, members]
  rcases generateContainer_cases config first.container (first :: rest) with
    ⟨fault, refused, result⟩ | ⟨accepted, result⟩
  · exact .inl ⟨fault, refused, by rw [result], by rw [result]⟩
  · exact .inr ⟨accepted, by rw [result], by rw [result]⟩

/-- Once its container is accepted, a path has a unit if any member is selected. -/
theorem standalone_of_accepted (config : Config) {path : String} {first : Declaration}
    (head : (set.membersOf path).head? = some first) (accepted : first.container.fault? = none) :
    standalone? config set path = unitOfPlans? config first.container
      (Selection.ofMembers config (set.membersOf path)).plans := by
  rcases outcome_cases config head with ⟨fault, refused, _⟩ | ⟨_, selected, _⟩
  · rw [accepted] at refused
    cases refused
  · exact selected

/-- Where the unit of a path comes from: the container of the path's first declaration, which is not
refused, and a selection among all declarations of the path. -/
structure MadeFrom (config : Config) (set : DeclarationSet) (path : String) (unit : GeneratedUnit)
    (first : Declaration) : Prop where
  head : (set.membersOf path).head? = some first
  accepted : first.container.fault? = none
  selected : unitOfPlans? config first.container
    (Selection.ofMembers config (set.membersOf path)).plans = some unit
  reported : findings config set path =
    (Selection.ofMembers config (set.membersOf path)).diagnostics

theorem MadeFrom.unitOf {path : String} {unit : GeneratedUnit} {first : Declaration}
    (origin : MadeFrom config set path unit first) :
    UnitOf first.container (Selection.ofMembers config (set.membersOf path)).plans unit :=
  unitOfPlans_some origin.selected

/-- A unit comes from the members of its path, under the name of the first of them, and leaves only
the diagnostics of the selection. -/
theorem standalone_some {path : String} {unit : GeneratedUnit}
    (made : standalone? config set path = some unit) :
    ∃ first, MadeFrom config set path unit first := by
  cases members : set.membersOf path with
  | nil => simp [standalone?, outcome, members] at made
  | cons first rest =>
    have head : (set.membersOf path).head? = some first := by rw [members, List.head?_cons]
    rcases outcome_cases config head with
      ⟨fault, _, absent, _⟩ | ⟨accepted, selected, reported⟩
    · rw [absent] at made
      cases made
    · exact ⟨first, head, accepted, selected.symm.trans made, reported⟩

theorem standalone_path {path : String} {unit : GeneratedUnit}
    (made : standalone? config set path = some unit) : unit.path = path := by
  obtain ⟨first, origin⟩ := standalone_some made
  exact origin.unitOf.path.trans (first_mem origin.head).2

/-- Only paths of declarations have units. -/
theorem standalone_mem_paths {path : String} {unit : GeneratedUnit}
    (made : standalone? config set path = some unit) : path ∈ set.paths := by
  obtain ⟨first, origin⟩ := standalone_some made
  exact (mem_paths set path).mpr ⟨first, first_mem origin.head⟩

@[simp] theorem extend_eq (diagnostics : Diagnostics) (more : List Diagnostic) :
    diagnostics.extend more = ⟨diagnostics.entries ++ more⟩ := by
  unfold Diagnostics.extend
  induction more generalizing diagnostics with
  | nil => simp
  | cons diagnostic more ih => simp [ih, Diagnostics.add]

/-- The diagnostic about a file that another path has. -/
def fileReport (set : DeclarationSet) (path : String) (unit owner : GeneratedUnit) :
    List Diagnostic :=
  ((set.membersOf path).head?.map fun first =>
    .duplicateUnitFile first.container unit.fileName owner.path).toList

/-- Everything that taking one more path can do to a generation. -/
inductive Taken (config : Config) (set : DeclarationSet) (generation : Generation)
    (path : String) : Generation → Prop where
  | unitless (absent : standalone? config set path = none) :
      Taken config set generation path
        ⟨generation.units, ⟨generation.diagnostics.entries ++ findings config set path⟩⟩
  | dropped (unit owner : GeneratedUnit) (made : standalone? config set path = some unit)
      (found : generation.units.find? (·.fileName == unit.fileName) = some owner) :
      Taken config set generation path
        ⟨generation.units, ⟨generation.diagnostics.entries ++ findings config set path ++
          fileReport set path unit owner⟩⟩
  | written (unit : GeneratedUnit) (made : standalone? config set path = some unit)
      (free : generation.units.find? (·.fileName == unit.fileName) = none) :
      Taken config set generation path
        ⟨generation.units ++ [unit],
          ⟨generation.diagnostics.entries ++ findings config set path⟩⟩

theorem addPath_taken (config : Config) (set : DeclarationSet) (generation : Generation)
    (path : String) : Taken config set generation path (generation.addPath config set path) := by
  unfold Generation.addPath
  cases members : set.membersOf path with
  | nil =>
    have empty : outcome config set path = (none, []) := by simp [outcome, members]
    have step : Taken config set generation path _ :=
      .unitless (by rw [standalone?, empty])
    simpa [findings, empty] using step
  | cons first rest =>
    have ran : generateContainer config first.container (first :: rest) =
        outcome config set path := by simp [outcome, members]
    simp only [ran, Generation.addContainer, extend_eq]
    cases made : (outcome config set path).1 with
    | none => exact .unitless made
    | some unit =>
      cases found : generation.units.find? (·.fileName == unit.fileName) with
      | none =>
        simp only [found]
        exact .written unit made found
      | some owner =>
        have report : fileReport set path unit owner =
            [.duplicateUnitFile first.container unit.fileName owner.path] := by
          simp [fileReport, members]
        simp only [found, Diagnostics.add]
        exact report ▸ .dropped unit owner made found

/-- The generation of some of the paths of a set. -/
def generated (config : Config) (set : DeclarationSet) (paths : List String) : Generation :=
  paths.foldl (Generation.addPath config set) {}

@[simp] theorem generated_snoc (paths : List String) (path : String) :
    generated config set (paths ++ [path]) =
      (generated config set paths).addPath config set path := by
  simp [generated]

/-- A file belongs to the unit of the first path that wants it, whether or not later paths want it
as well. -/
theorem find_file (config : Config) (set : DeclarationSet) (paths : List String) (file : String) :
    (generated config set paths).units.find? (·.fileName == file) =
      paths.findSome? fun path => (standalone? config set path).filter (·.fileName == file) := by
  induction paths using List.reverseRecOn with
  | nil => rfl
  | append_singleton paths path ih =>
    rw [generated_snoc, List.findSome?_append, ← ih]
    generalize judgement : (generated config set paths).addPath config set path = next
    have taken := judgement ▸ addPath_taken config set (generated config set paths) path
    cases taken with
    | unitless absent => simp [absent]
    | dropped unit owner made found =>
      by_cases same : unit.fileName = file
      · subst same
        simp [found]
      · simp [made, same]
    | written unit made free =>
      by_cases same : unit.fileName = file
      · subst same
        simp [made, free, Option.filter]
      · simp [made, same]

/-- The unit that keeps a path's unit from its file: that of the first smaller path with a unit of
the same file. -/
def owner? (config : Config) (set : DeclarationSet) (paths : List String) (path : String) :
    Option GeneratedUnit :=
  (standalone? config set path).bind fun unit =>
    (paths.filter (· < path)).findSome? fun smaller =>
      (standalone? config set smaller).filter (·.fileName == unit.fileName)

/-- The unit that a path has among others. -/
def written? (config : Config) (set : DeclarationSet) (paths : List String) (path : String) :
    Option GeneratedUnit :=
  if (owner? config set paths path).isSome then none else standalone? config set path

/-- The diagnostic that a path gets because of others. -/
def dropReport (config : Config) (set : DeclarationSet) (paths : List String) (path : String) :
    List Diagnostic :=
  match standalone? config set path, owner? config set paths path with
  | some unit, some owner => fileReport set path unit owner
  | _, _ => []

theorem dropReport_of_free {paths : List String} {path : String}
    (free : owner? config set paths path = none) : dropReport config set paths path = [] := by
  simp [dropReport, free]

theorem dropReport_of_owner {paths : List String} {path : String} {unit owner : GeneratedUnit}
    {first : Declaration} (made : standalone? config set path = some unit)
    (outdone : owner? config set paths path = some owner)
    (head : (set.membersOf path).head? = some first) :
    dropReport config set paths path =
      [.duplicateUnitFile first.container unit.fileName owner.path] := by
  simp [dropReport, made, outdone, fileReport, head]

/-- A path's file is free exactly when no smaller path has a unit of the same file. -/
theorem owner_none_iff {paths : List String} {path : String} {unit : GeneratedUnit}
    (made : standalone? config set path = some unit) :
    owner? config set paths path = none ↔ ∀ smaller ∈ paths, smaller < path →
      ∀ other, standalone? config set smaller = some other → other.fileName ≠ unit.fileName := by
  rw [owner?, made, Option.bind_some, List.findSome?_eq_none_iff]
  constructor
  · intro free smaller member less other present same
    have absent := free smaller (List.mem_filter.mpr ⟨member, decide_eq_true less⟩)
    simp [present, same, Option.filter] at absent
  · intro free smaller member
    obtain ⟨occurs, less⟩ := List.mem_filter.mp member
    cases present : standalone? config set smaller with
    | none => rfl
    | some other =>
      have different := free smaller occurs (of_decide_eq_true less) other present
      simp [different, Option.filter]

/-- Whoever keeps a path from its file is a smaller path's unit of that file. -/
theorem owner_some {paths : List String} {path : String} {unit owner : GeneratedUnit}
    (made : standalone? config set path = some unit)
    (found : owner? config set paths path = some owner) :
    ∃ smaller ∈ paths, smaller < path ∧ standalone? config set smaller = some owner ∧
      owner.fileName = unit.fileName := by
  rw [owner?, made, Option.bind_some] at found
  obtain ⟨smaller, member, kept⟩ := List.exists_of_findSome?_eq_some found
  obtain ⟨occurs, less⟩ := List.mem_filter.mp member
  obtain ⟨present, same⟩ := Option.filter_eq_some_iff.mp kept
  exact ⟨smaller, occurs, of_decide_eq_true less, present, beq_iff_eq.mp same⟩

/-- Whoever keeps a path from its file is not kept from it in turn: no path before it wants the same
file. -/
theorem owner_free {paths : List String} {path : String} {unit owner : GeneratedUnit}
    (sorted : paths.Pairwise (· < ·)) (made : standalone? config set path = some unit)
    (found : owner? config set paths path = some owner) :
    owner? config set paths owner.path = none := by
  rw [owner?, made, Option.bind_some] at found
  obtain ⟨before, smaller, after, split, kept, unwanted⟩ := List.findSome?_eq_some_iff.mp found
  obtain ⟨present, same⟩ := Option.filter_eq_some_iff.mp kept
  have listed : smaller ∈ paths.filter (· < path) :=
    split ▸ List.mem_append_right _ List.mem_cons_self
  have less : smaller < path := of_decide_eq_true (List.mem_filter.mp listed).2
  have ordered : (before ++ smaller :: after).Pairwise (· < ·) := split ▸ sorted.filter _
  rw [standalone_path present]
  apply (owner_none_iff present).mpr
  intro earlier member lower other otherMade clash
  have occurs : earlier ∈ before ++ smaller :: after :=
    split ▸ List.mem_filter.mpr ⟨member, decide_eq_true (lower.trans less)⟩
  rcases List.mem_append.mp occurs with early | late
  · have absent := unwanted earlier early
    simp [otherMade, clash, beq_iff_eq.mp same, Option.filter] at absent
  · rcases List.mem_cons.mp late with here | late
    · exact absurd here lower.ne
    · have later := (List.pairwise_cons.mp (List.pairwise_append.mp ordered).2.1).1 earlier late
      exact absurd lower later.asymm

private theorem smaller_of_snoc {paths : List String} {last path : String}
    (sorted : (paths ++ [last]).Pairwise (· < ·)) (member : path ∈ paths) :
    (paths ++ [last]).filter (· < path) = paths.filter (· < path) := by
  have below := (List.pairwise_append.mp sorted).2.2 path member last (List.mem_singleton_self _)
  rw [List.filter_append, List.filter_singleton, decide_eq_false (not_lt.mpr below.le)]
  exact List.append_nil _

private theorem smaller_of_last {paths : List String} {last : String}
    (sorted : (paths ++ [last]).Pairwise (· < ·)) :
    (paths ++ [last]).filter (· < last) = paths := by
  have below : ∀ path ∈ paths, path < last := by
    intro path member
    exact (List.pairwise_append.mp sorted).2.2 path member last (List.mem_singleton_self _)
  have all : paths.filter (· < last) = paths :=
    List.filter_eq_self.mpr fun path member => decide_eq_true (below path member)
  rw [List.filter_append, List.filter_singleton, decide_eq_false (lt_irrefl last), all]
  exact List.append_nil _

/-- The closed form of a generation: every path contributes its own unit unless a smaller path has
the file, and its own diagnostics, followed by one about the file in that case. -/
theorem generated_eq (config : Config) (set : DeclarationSet) (paths : List String)
    (sorted : paths.Pairwise (· < ·)) :
    (generated config set paths).units = paths.filterMap (written? config set paths) ∧
      (generated config set paths).diagnostics.entries =
        paths.flatMap fun path => findings config set path ++ dropReport config set paths path := by
  induction paths using List.reverseRecOn with
  | nil => exact ⟨rfl, rfl⟩
  | append_singleton paths last ih =>
    obtain ⟨units, diagnostics⟩ := ih (List.pairwise_append.mp sorted).1
    have earlier : ∀ path ∈ paths,
        owner? config set (paths ++ [last]) path = owner? config set paths path := by
      intro path member
      simp only [owner?, smaller_of_snoc sorted member]
    have writtenSame : paths.filterMap (written? config set (paths ++ [last])) =
        paths.filterMap (written? config set paths) :=
      List.filterMap_congr fun path member => by simp only [written?, earlier path member]
    have reportsSame : (paths.flatMap fun path =>
        findings config set path ++ dropReport config set (paths ++ [last]) path) =
        paths.flatMap fun path => findings config set path ++ dropReport config set paths path :=
      List.flatMap_congr fun path member => by simp only [dropReport, earlier path member]
    have owner : owner? config set (paths ++ [last]) last =
        (standalone? config set last).bind fun unit =>
          (generated config set paths).units.find? (·.fileName == unit.fileName) := by
      simp only [owner?, smaller_of_last sorted, find_file]
    rw [List.filterMap_append, List.flatMap_append, writtenSame, reportsSame, ← units,
      ← diagnostics, generated_snoc]
    generalize judgement : (generated config set paths).addPath config set last = next
    have taken := judgement ▸ addPath_taken config set (generated config set paths) last
    cases taken with
    | unitless absent => simp [written?, dropReport, owner, absent]
    | dropped unit holder made found => simp [written?, dropReport, owner, made, found]
    | written unit made free => simp [written?, dropReport, owner, made, free]

theorem written_some {paths : List String} {path : String} {unit : GeneratedUnit}
    (present : written? config set paths path = some unit) :
    standalone? config set path = some unit ∧ owner? config set paths path = none := by
  unfold written? at present
  split at present
  · cases present
  · rename_i free
    exact ⟨present, Option.not_isSome_iff_eq_none.mp free⟩

/-- A path that has a unit alone but none among others was kept from its file. -/
theorem outdone_of_unwritten {paths : List String} {path : String} {unit : GeneratedUnit}
    (made : standalone? config set path = some unit)
    (absent : written? config set paths path = none) :
    ∃ owner, owner? config set paths path = some owner := by
  cases outdone : owner? config set paths path with
  | none => simp [written?, outdone, made] at absent
  | some owner => exact ⟨owner, rfl⟩

/-- The units of a set, one for every path that has one and whose file is free. -/
theorem ofSet_units (config : Config) (set : DeclarationSet) :
    (Generation.ofSet config set).units = set.paths.filterMap (written? config set set.paths) :=
  (generated_eq config set set.paths (paths_sorted set)).1

/-- The diagnostics of a set, path by path. -/
theorem ofSet_diagnostics (config : Config) (set : DeclarationSet) :
    (Generation.ofSet config set).diagnostics.entries = set.paths.flatMap fun path =>
      findings config set path ++ dropReport config set set.paths path :=
  (generated_eq config set set.paths (paths_sorted set)).2

theorem mem_ofSet_units {unit : GeneratedUnit} :
    unit ∈ (Generation.ofSet config set).units ↔
      written? config set set.paths unit.path = some unit := by
  rw [ofSet_units, List.mem_filterMap]
  constructor
  · rintro ⟨path, _, present⟩
    rwa [standalone_path (written_some present).1]
  · intro present
    exact ⟨unit.path, standalone_mem_paths (written_some present).1, present⟩

/-- Every unit of a generation was made from the first declaration of its path. -/
theorem unit_origin {unit : GeneratedUnit} (member : unit ∈ (Generation.ofSet config set).units) :
    ∃ first, MadeFrom config set unit.path unit first :=
  standalone_some (written_some (mem_ofSet_units.mp member)).1

/-- Looking a path up in a generation finds the unit it has among the others. -/
theorem ofSet_unit (config : Config) (set : DeclarationSet) (path : String) :
    (Generation.ofSet config set).unit? path = written? config set set.paths path := by
  cases present : written? config set set.paths path with
  | none =>
    refine List.find?_eq_none.mpr fun unit member named => ?_
    rw [mem_ofSet_units, beq_iff_eq.mp named, present] at member
    cases member
  | some unit =>
    have named := standalone_path (written_some present).1
    have member : unit ∈ (Generation.ofSet config set).units := by
      rw [mem_ofSet_units, named, present]
    unfold Generation.unit?
    cases found : (Generation.ofSet config set).units.find? (·.path == path) with
    | none => exact absurd (beq_iff_eq.mpr named) (List.find?_eq_none.mp found unit member)
    | some other =>
      have sameName : other.path = path := by simpa using List.find?_some found
      have occurs := List.mem_of_find?_eq_some found
      rw [mem_ofSet_units, sameName, present] at occurs
      exact occurs.symm

/-- A set with a usable configuration is always generated. -/
theorem run_of_valid (valid : config.isValid = true) (set : DeclarationSet) :
    Generation.run config set = .ok (Generation.ofSet config set) := by
  unfold Generation.run
  rw [Option.isNone_iff_eq_none.mp valid]

end NativeThunks.ContainerOutcomes
