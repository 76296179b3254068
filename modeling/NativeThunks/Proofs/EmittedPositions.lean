import NativeThunks.Proofs.ContainerOutcomes
import NativeThunks.Proofs.SelectionRuns

/-! Which positions of a set are emitted. Two declarations of a set can be equal and still fare
differently, so a declaration is traced by its position. A position is emitted when judging it, after
all earlier members of its container, adds a plan, and when the container has a unit in the end. The
members of every unit are then read off the emitted positions of its path. -/
namespace NativeThunks.EmittedPositions
open PlanStages SelectionRuns PathOrder ContainerOutcomes

variable {config : Config}

/-- Whether the declaration at a position has a path. -/
def isAt (declarations : List Declaration) (path : String) (position : Nat) : Bool :=
  declarations[position]?.any (·.container.path == path)

/-- Whether the selection of its container keeps the declaration at a position, after the members
of the same container before it. -/
def keptAt (config : Config) (declarations : List Declaration) (position : Nat) : Bool :=
  declarations[position]?.any fun decl =>
    keeps config (.ofMembers config
      ((declarations.take position).filter (·.container.path == decl.container.path))) decl

/-- The positions that the selection of a container keeps. -/
def keptPositions (config : Config) (declarations : List Declaration) (path : String) : List Nat :=
  (List.range declarations.length).filter fun position =>
    keptAt config declarations position && isAt declarations path position

/-- The declarations at some positions. -/
def declarationsAt (declarations : List Declaration) (positions : List Nat) : List Declaration :=
  positions.filterMap (declarations[·]?)

/-- Whether a generation emits the declaration at a position. -/
def emits (config : Config) (set : DeclarationSet) (position : Nat) : Bool :=
  keptAt config set.declarations position &&
    set.declarations[position]?.any fun decl =>
      ((Generation.ofSet config set).unit? decl.container.path).isSome

/-- The emitted positions, in the order of the set. -/
def emittedPositions (config : Config) (set : DeclarationSet) : List Nat :=
  (List.range set.declarations.length).filter (emits config set)

/-- The emitted positions of one container. -/
def origins (config : Config) (set : DeclarationSet) (path : String) : List Nat :=
  (emittedPositions config set).filter (isAt set.declarations path)

/-- The declarations that a generation emits, as a set of their own. -/
def emitted (config : Config) (set : DeclarationSet) : DeclarationSet :=
  ⟨declarationsAt set.declarations (emittedPositions config set)⟩

theorem isAt_iff {declarations : List Declaration} {path : String} {position : Nat}
    {decl : Declaration} (found : declarations[position]? = some decl) :
    isAt declarations path position = true ↔ decl.container.path = path := by
  simp [isAt, found]

theorem declarationsAt_filter (declarations : List Declaration) (positions : List Nat)
    (path : String) :
    (declarationsAt declarations positions).filter (·.container.path == path) =
      declarationsAt declarations (positions.filter (isAt declarations path)) := by
  unfold declarationsAt
  rw [List.filter_filterMap, List.filterMap_filter]
  apply List.filterMap_congr
  intro position _
  cases found : declarations[position]? with
  | none => simp [isAt, found]
  | some decl => cases same : decl.container.path == path <;> simp [isAt, found, same, Option.filter]

private theorem declarationsAt_range (declarations : List Declaration) :
    declarationsAt declarations (List.range declarations.length) = declarations := by
  induction declarations using List.reverseRecOn with
  | nil => rfl
  | append_singleton declarations decl ih =>
    rw [List.length_append, List.length_singleton, List.range_succ, declarationsAt,
      List.filterMap_append]
    have earlier : (List.range declarations.length).filterMap ((declarations ++ [decl])[·]?) =
        declarationsAt declarations (List.range declarations.length) :=
      List.filterMap_congr fun position member =>
        List.getElem?_append_left (List.mem_range.mp member)
    rw [earlier, ih]
    simp

/-- What a generation emits is a part of the set, in the same order. -/
theorem emitted_sublist (config : Config) (set : DeclarationSet) :
    (emitted config set).declarations.Sublist set.declarations := by
  have part := (List.filter_sublist (l := List.range set.declarations.length)
    (p := emits config set)).filterMap (set.declarations[·]?)
  rwa [show (List.range set.declarations.length).filterMap (set.declarations[·]?) =
    set.declarations from declarationsAt_range set.declarations] at part

private theorem keptAt_snoc {declarations : List Declaration} (decl : Declaration) {position : Nat}
    (inside : position < declarations.length) :
    keptAt config (declarations ++ [decl]) position = keptAt config declarations position := by
  rw [keptAt, keptAt, List.getElem?_append_left inside,
    List.take_append_of_le_length (Nat.le_of_lt inside)]

private theorem isAt_snoc {declarations : List Declaration} (decl : Declaration) (path : String)
    {position : Nat} (inside : position < declarations.length) :
    isAt (declarations ++ [decl]) path position = isAt declarations path position := by
  rw [isAt, isAt, List.getElem?_append_left inside]

private theorem keptPositions_snoc (declarations : List Declaration) (decl : Declaration)
    (path : String) :
    keptPositions config (declarations ++ [decl]) path =
      keptPositions config declarations path ++
        if decl.container.path = path ∧ keeps config
            (.ofMembers config (declarations.filter (·.container.path == path))) decl = true
        then [declarations.length] else [] := by
  have earlier : (List.range declarations.length).filter (fun position =>
      keptAt config (declarations ++ [decl]) position &&
        isAt (declarations ++ [decl]) path position) = keptPositions config declarations path :=
    List.filter_congr fun position member => by
      rw [keptAt_snoc decl (List.mem_range.mp member),
        isAt_snoc decl path (List.mem_range.mp member)]
  rw [keptPositions, List.length_append, List.length_singleton, List.range_succ,
    List.filter_append, earlier]
  congr 1
  by_cases named : decl.container.path = path
  · subst named
    simp [List.filter_singleton, keptAt, isAt]
  · simp [isAt, named]

/-- Judging a container's members in a row keeps exactly those at the kept positions: nothing but
the earlier members of the same container matters for a position. -/
theorem kept_declarations (config : Config) (declarations : List Declaration) (path : String) :
    (Selection.ofMembers config (declarations.filter (·.container.path == path))).plans.map
        (·.decl) = declarationsAt declarations (keptPositions config declarations path) := by
  induction declarations using List.reverseRecOn with
  | nil => rfl
  | append_singleton declarations decl ih =>
    have earlier : declarationsAt (declarations ++ [decl]) (keptPositions config declarations path) =
        declarationsAt declarations (keptPositions config declarations path) :=
      List.filterMap_congr fun position member =>
        List.getElem?_append_left (List.mem_range.mp (List.mem_of_mem_filter member))
    rw [keptPositions_snoc, declarationsAt, List.filterMap_append, ← declarationsAt, earlier, ← ih,
      List.filter_append]
    by_cases named : decl.container.path = path
    · have last : [decl].filter (·.container.path == path) = [decl] := by simp [named]
      rw [last, ofMembers_snoc]
      cases decided : keeps config
          (.ofMembers config (declarations.filter (·.container.path == path))) decl with
      | true =>
        obtain ⟨_, _, added⟩ := add_of_keeps decided
        simp [added, named, MemberPlan.ofDeclaration]
      | false =>
        obtain ⟨faults, _, _, added⟩ := add_of_skips decided
        simp [added]
    · simp [named]

/-- A position that is kept has its declaration among the selected ones of its container. -/
theorem kept_selected {declarations : List Declaration} {position : Nat} {decl : Declaration}
    (found : declarations[position]? = some decl)
    (kept : keptAt config declarations position = true) :
    decl ∈ (Selection.ofMembers config
      (declarations.filter (·.container.path == decl.container.path))).plans.map (·.decl) := by
  rw [kept_declarations]
  refine List.mem_filterMap.mpr ⟨position, List.mem_filter.mpr ⟨?_, ?_⟩, found⟩
  · exact List.mem_range.mpr (List.getElem?_eq_some_iff.mp found).1
  · exact Bool.and_eq_true_iff.mpr ⟨kept, (isAt_iff found).mpr rfl⟩

/-- A position that is not kept leaves a diagnostic about its declaration in the selection of its
container. -/
theorem skipped_diagnostic {declarations : List Declaration} {position : Nat} {decl : Declaration}
    (found : declarations[position]? = some decl)
    (skipped : keptAt config declarations position = false) :
    ∃ fault ∈ (Selection.ofMembers config
        (declarations.filter (·.container.path == decl.container.path))).diagnostics,
      AboutMember decl fault := by
  let before := (declarations.take position).filter (·.container.path == decl.container.path)
  have skips : keeps config (.ofMembers config before) decl = false := by
    simpa [keptAt, found] using skipped
  obtain ⟨faults, loud, about, added⟩ := add_of_skips skips
  obtain ⟨fault, member⟩ := List.exists_mem_of_ne_nil _ loud
  have parts : declarations =
      declarations.take position ++ decl :: declarations.drop (position + 1) := by
    obtain ⟨inside, rfl⟩ := List.getElem?_eq_some_iff.mp found
    rw [← List.drop_eq_getElem_cons inside, List.take_append_drop]
  have split : declarations.filter (·.container.path == decl.container.path) =
      (before ++ [decl]) ++ (declarations.drop (position + 1)).filter
        (·.container.path == decl.container.path) := by
    conv_lhs => rw [parts]
    rw [List.filter_append, List.filter_cons]
    simp [before]
  refine ⟨fault, ?_, (about fault member).about⟩
  rw [split]
  apply (ofMembers_extends config _ _).2.subset
  rw [ofMembers_snoc, added]
  exact List.mem_append_right _ member

/-- Where a container has a unit, its kept positions are emitted; elsewhere none is. -/
theorem origins_eq (config : Config) (set : DeclarationSet) (path : String) :
    origins config set path =
      if ((Generation.ofSet config set).unit? path).isSome then
        keptPositions config set.declarations path else [] := by
  rw [origins, emittedPositions, List.filter_filter]
  have emitsAt : ∀ position, (isAt set.declarations path position && emits config set position) =
      (((Generation.ofSet config set).unit? path).isSome &&
        (keptAt config set.declarations position && isAt set.declarations path position)) := by
    intro position
    cases found : set.declarations[position]? with
    | none => simp [isAt, emits, found]
    | some decl =>
      by_cases named : decl.container.path = path
      · subst named
        simp [isAt, emits, found, Bool.and_comm]
      · simp [isAt, found, beq_eq_false_iff_ne.mpr named]
  simp only [emitsAt]
  cases ((Generation.ofSet config set).unit? path).isSome with
  | true => simp [keptPositions]
  | false => simp

/-- The emitted members of a container are the selected ones, or none if it has no unit. -/
theorem membersOf_emitted (config : Config) (set : DeclarationSet) (path : String) :
    (emitted config set).membersOf path =
      if ((Generation.ofSet config set).unit? path).isSome then
        (Selection.ofMembers config (set.membersOf path)).plans.map (·.decl) else [] := by
  rw [DeclarationSet.membersOf, emitted, declarationsAt_filter, ← origins, origins_eq]
  split
  · exact (kept_declarations config set.declarations path).symm
  · rfl

/-- A unit has one member for every emitted declaration of its path, in their order. -/
theorem unit_members {set : DeclarationSet} {unit : GeneratedUnit}
    (member : unit ∈ (Generation.ofSet config set).units) :
    unit.members = ((emitted config set).membersOf unit.path).map memberOf := by
  have present := mem_ofSet_units.mp member
  have looked : ((Generation.ofSet config set).unit? unit.path).isSome = true := by
    rw [ofSet_unit]
    exact Option.isSome_of_eq_some present
  obtain ⟨first, origin⟩ := standalone_some (written_some present).1
  rw [membersOf_emitted, if_pos looked, origin.unitOf.members, sound_members (ofMembers_sound config _)]

end NativeThunks.EmittedPositions
