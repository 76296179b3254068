import NativeThunks.Proofs.EmittedPositions
import NativeThunks.Samples

/-! No declaration is lost silently. Every position of a set is either emitted, into the one unit of
its own container, or named by a diagnostic; and a generation is free of diagnostics exactly when it
has as many members as the set has declarations. The first half follows a single position, the second
compares, path by path, what a container could contribute with what it does. -/
namespace NativeThunks.DeclarationAccounting
open PlanStages SelectionRuns PathOrder ContainerOutcomes EmittedPositions

variable {config : Config} {set : DeclarationSet}

/-- A diagnostic accounts for a declaration if it names its container and no other member. -/
def Accounts (fault : Diagnostic) (decl : Declaration) : Prop :=
  fault.location.container = some decl.container.path ∧
    (fault.location.member = none ∨ fault.location.member = some decl.name)

private theorem accounts_of_member {fault : Diagnostic} {decl : Declaration}
    (about : AboutMember decl fault) : Accounts fault decl := by
  rw [Accounts, about]
  exact ⟨rfl, .inr rfl⟩

private theorem accounts_of_container {fault : Diagnostic} {container : Container}
    {decl : Declaration} (place : fault.location = .ofContainer container)
    (same : container.path = decl.container.path) : Accounts fault decl := by
  rw [Accounts, place, ← same]
  exact ⟨rfl, .inl rfl⟩

/-- A position that is not emitted is accounted for by a diagnostic of its own path, wherever it was
lost: in its container, in the selection, or with the whole unit. -/
theorem unemitted_reported {position : Nat} {decl : Declaration}
    (found : set.declarations[position]? = some decl)
    (missing : emits config set position = false) :
    ∃ fault ∈ findings config set decl.container.path ++
        dropReport config set set.paths decl.container.path, Accounts fault decl := by
  have taken : decl.container.path ∈ set.paths :=
    (mem_paths set _).mpr ⟨decl, List.mem_of_getElem? found, rfl⟩
  obtain ⟨first, head⟩ := exists_first taken
  have named := (first_mem head).2
  rcases outcome_cases config head with
    ⟨fault, refused, _, found⟩ | ⟨accepted, selected, diagnostics⟩
  · exact ⟨fault, by simp [found], accounts_of_container (fault_location refused) named⟩
  · cases kept : keptAt config set.declarations position with
    | false =>
      obtain ⟨fault, listed, about⟩ := skipped_diagnostic found kept
      refine ⟨fault, List.mem_append_left _ ?_, accounts_of_member about⟩
      rw [diagnostics]
      exact listed
    | true =>
      cases made : standalone? config set decl.container.path with
      | none =>
        have listed : decl ∈ (Selection.ofMembers config
            (set.membersOf decl.container.path)).plans.map (·.decl) := kept_selected found kept
        rw [unitOfPlans_none (selected.symm.trans made)] at listed
        cases listed
      | some unit =>
        have unitless : written? config set set.paths decl.container.path = none := by
          simpa [emits, kept, found, ofSet_unit] using missing
        obtain ⟨owner, outdone⟩ := outdone_of_unwritten made unitless
        refine ⟨.duplicateUnitFile first.container unit.fileName owner.path,
          List.mem_append_right _ ?_, accounts_of_container rfl named⟩
        rw [dropReport_of_owner made outdone head]
        exact List.mem_singleton_self _

/-- Grouping declarations by increasing paths neither loses nor repeats any. -/
private theorem length_grouped (paths : List String) (sorted : paths.Pairwise (· < ·))
    (declarations : List Declaration)
    (covered : ∀ decl ∈ declarations, decl.container.path ∈ paths) :
    (paths.flatMap fun path => declarations.filter (·.container.path == path)).length =
      declarations.length := by
  induction paths generalizing declarations with
  | nil =>
    have none : declarations = [] := List.eq_nil_iff_forall_not_mem.mpr
      fun decl member => absurd (covered decl member) List.not_mem_nil
    simp [none]
  | cons path rest ih =>
    obtain ⟨below, restSorted⟩ := List.pairwise_cons.mp sorted
    let others := declarations.filter fun decl : Declaration => !(decl.container.path == path)
    have othersCovered : ∀ decl ∈ others, decl.container.path ∈ rest := by
      intro decl member
      obtain ⟨occurs, different⟩ := List.mem_filter.mp member
      rcases List.mem_cons.mp (covered decl occurs) with same | later
      · simp [same] at different
      · exact later
    have untouched : (rest.flatMap fun later =>
        declarations.filter (·.container.path == later)) =
        rest.flatMap fun later => others.filter (·.container.path == later) := by
      apply List.flatMap_congr
      intro later member
      rw [List.filter_filter]
      apply List.filter_congr
      intro decl _
      by_cases named : decl.container.path = later
      · have different : later ≠ path := (below later member).ne'
        simp [named, different]
      · simp [named]
    rw [List.flatMap_cons, List.length_append, untouched, ih restSorted others othersCovered]
    exact (List.length_eq_length_filter_add
      fun decl : Declaration => decl.container.path == path).symm

/-- Two ways of filling the same groups, one below the other, agree in size exactly when they agree
in the size of every group. -/
private theorem length_flatMap_eq_iff {α β : Type} (paths : List String) (low : String → List α)
    (high : String → List β) (bounded : ∀ path ∈ paths, (low path).length ≤ (high path).length) :
    (paths.flatMap low).length ≤ (paths.flatMap high).length ∧
      ((paths.flatMap low).length = (paths.flatMap high).length ↔
        ∀ path ∈ paths, (low path).length = (high path).length) := by
  induction paths with
  | nil => simp
  | cons path rest ih =>
    obtain ⟨total, same⟩ := ih fun later member => bounded later (List.mem_cons_of_mem _ member)
    have head := bounded path List.mem_cons_self
    rw [List.forall_mem_cons, ← same, List.flatMap_cons, List.flatMap_cons, List.length_append,
      List.length_append]
    omega

/-- The members that a path contributes to a generation. -/
def contribution (config : Config) (set : DeclarationSet) (path : String) : List EmittedMember :=
  ((written? config set set.paths path).map (·.members)).getD []

private theorem filterMap_members (paths : List String) (unit? : String → Option GeneratedUnit) :
    (paths.filterMap unit?).flatMap (·.members) =
      paths.flatMap fun path => ((unit? path).map (·.members)).getD [] := by
  induction paths with
  | nil => rfl
  | cons path rest ih =>
    cases present : unit? path with
    | none => simpa [present] using ih
    | some unit => simpa [present] using ih

private theorem memberCount_eq (config : Config) (set : DeclarationSet) :
    (Generation.ofSet config set).memberCount =
      (set.paths.flatMap (contribution config set)).length := by
  rw [Generation.memberCount, ofSet_units, filterMap_members]
  rfl

/-- A path contributes no more members than it has declarations, and as many exactly when nothing is
reported about it. -/
theorem contribution_full_iff {path : String} (taken : path ∈ set.paths) :
    (contribution config set path).length ≤ (set.membersOf path).length ∧
      ((contribution config set path).length = (set.membersOf path).length ↔
        findings config set path ++ dropReport config set set.paths path = []) := by
  have positive := List.length_pos_iff.mpr ((mem_paths_iff set path).mp taken)
  have bound := (plans_sublist config (set.membersOf path)).length_le
  rw [List.length_map] at bound
  have silent := diagnostics_nil_iff config (set.membersOf path)
  cases present : written? config set set.paths path with
  | some unit =>
    obtain ⟨made, free⟩ := written_some present
    obtain ⟨_, origin⟩ := standalone_some made
    have size : (contribution config set path).length =
        (Selection.ofMembers config (set.membersOf path)).plans.length := by
      simp [contribution, present, origin.unitOf.members]
    rw [size, origin.reported, dropReport_of_free free, List.append_nil, silent]
    exact ⟨bound, Iff.rfl⟩
  | none =>
    have size : (contribution config set path).length = 0 := by simp [contribution, present]
    obtain ⟨first, head⟩ := exists_first taken
    obtain ⟨occurs, rfl⟩ := first_mem head
    obtain ⟨position, found⟩ := List.getElem?_of_mem occurs
    have missing : emits config set position = false := by
      simp [emits, found, ofSet_unit, present]
    obtain ⟨fault, listed, _⟩ := unemitted_reported found missing
    rw [size]
    exact ⟨Nat.zero_le _, ⟨fun empty => absurd empty (Nat.ne_of_lt positive),
      fun quiet => absurd quiet (List.ne_nil_of_mem listed)⟩⟩

/-- A generation reports nothing exactly when every declaration became a member. -/
theorem diagnostics_nil_iff_memberCount (config : Config) (set : DeclarationSet) :
    (Generation.ofSet config set).diagnostics.entries = [] ↔
      (Generation.ofSet config set).memberCount = set.declarations.length := by
  have grouped := length_grouped set.paths (paths_sorted set) set.declarations
    fun decl member => (mem_paths set _).mpr ⟨decl, member, rfl⟩
  have full := (length_flatMap_eq_iff set.paths (contribution config set) set.membersOf
    fun path taken => (contribution_full_iff taken).1).2
  rw [ofSet_diagnostics, memberCount_eq, ← grouped, List.flatMap_eq_nil_iff]
  refine Iff.trans ?_ full.symm
  exact forall₂_congr fun path taken => (contribution_full_iff taken).2.symm

/-- A check fails as soon as anything was reported. -/
theorem check_ok_iff (generation : Generation) :
    generation.check = .ok () ↔ generation.diagnostics.entries = [] := by
  unfold Generation.check Diagnostics.hasErrors
  cases generation.diagnostics.entries with
  | nil => simp
  | cons fault rest => simp

/-- Every position of a set is in the books of its generation, once. -/
structure Account (config : Config) (set : DeclarationSet) (generation : Generation) : Prop where
  /-- A unit has one member for every emitted position of its path, and no other. -/
  members : ∀ unit ∈ generation.units, unit.members =
    (declarationsAt set.declarations (origins config set unit.path)).map memberOf
  /-- An emitted position is in one unit, that of its own container. -/
  emitted : ∀ position decl, set.declarations[position]? = some decl →
    emits config set position = true →
      ∃ unit ∈ generation.units, unit.path = decl.container.path ∧
        position ∈ origins config set unit.path ∧
        ∀ other ∈ generation.units, position ∈ origins config set other.path → other = unit
  /-- Any other position is in no unit, and a diagnostic says so. -/
  missing : ∀ position decl, set.declarations[position]? = some decl →
    emits config set position = false →
      (∀ unit ∈ generation.units, position ∉ origins config set unit.path) ∧
        ∃ fault ∈ generation.diagnostics.entries, Accounts fault decl
  checked : generation.check = .ok () ↔ generation.diagnostics.entries = []
  /-- Nothing is reported exactly when every declaration became a member. -/
  complete : generation.diagnostics.entries = [] ↔
    generation.memberCount = set.declarations.length

private theorem origin_emitted {path : String} {position : Nat} {decl : Declaration}
    (found : set.declarations[position]? = some decl)
    (origin : position ∈ origins config set path) :
    emits config set position = true ∧ decl.container.path = path := by
  obtain ⟨emittedHere, placed⟩ := List.mem_filter.mp origin
  exact ⟨(List.mem_filter.mp emittedHere).2, (isAt_iff found).mp placed⟩

private theorem emitted_once {position : Nat} {decl : Declaration}
    (found : set.declarations[position]? = some decl)
    (here : emits config set position = true) :
    ∃ unit ∈ (Generation.ofSet config set).units, unit.path = decl.container.path ∧
      position ∈ origins config set unit.path ∧
      ∀ other ∈ (Generation.ofSet config set).units,
        position ∈ origins config set other.path → other = unit := by
  have present : ((Generation.ofSet config set).unit? decl.container.path).isSome = true := by
    simpa [found] using (Bool.and_eq_true_iff.mp here).2
  obtain ⟨unit, looked⟩ := Option.isSome_iff_exists.mp present
  rw [ofSet_unit] at looked
  have named := standalone_path (written_some looked).1
  refine ⟨unit, mem_ofSet_units.mpr (named ▸ looked), named, ?_, fun other member origin => ?_⟩
  · refine List.mem_filter.mpr ⟨List.mem_filter.mpr ⟨?_, here⟩, (isAt_iff found).mpr named.symm⟩
    exact List.mem_range.mpr (List.getElem?_eq_some_iff.mp found).1
  · have same := mem_ofSet_units.mp member
    rw [← (origin_emitted found origin).2, looked] at same
    exact (Option.some.inj same).symm

/-- With a usable configuration every set is generated, and no declaration of it is lost: each
position is emitted into the one unit of its container or accounted for by a diagnostic. -/
theorem no_declaration_lost (set : DeclarationSet) (valid : config.isValid = true) :
    ∃ generation, Generation.run config set = .ok generation ∧ Account config set generation := by
  refine ⟨_, run_of_valid valid set, ?_⟩
  constructor
  case members =>
    intro unit member
    rw [origins, ← declarationsAt_filter]
    exact unit_members member
  case emitted => exact fun position decl found here => emitted_once found here
  case missing =>
    intro position decl found elsewhere
    constructor
    · intro unit _ origin
      rw [(origin_emitted found origin).1] at elsewhere
      cases elsewhere
    · obtain ⟨fault, listed, accounts⟩ := unemitted_reported found elsewhere
      refine ⟨fault, ?_, accounts⟩
      rw [ofSet_diagnostics]
      exact List.mem_flatMap.mpr
        ⟨_, (mem_paths set _).mpr ⟨decl, List.mem_of_getElem? found, rfl⟩, listed⟩
  case checked => exact check_ok_iff _
  case complete => exact diagnostics_nil_iff_memberCount config set

theorem no_declaration_lost_mixed : Config.isValid {} = true ∧
    ∃ generation, Generation.run {} Samples.mixedLegality = .ok generation ∧
      Account {} Samples.mixedLegality generation :=
  have valid : Config.isValid {} = true := by decide +kernel
  ⟨valid, no_declaration_lost Samples.mixedLegality valid⟩

end NativeThunks.DeclarationAccounting
