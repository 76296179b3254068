import NativeThunks.Proofs.ContainerOutcomes
import NativeThunks.Samples

/-! Generation decomposes by path. What a set comes to is put together from what the declarations of
each path come to when they are generated alone; the only thing that one path can do to another is
to take the file of its unit. Sets that agree path by path are therefore generated alike, however
their containers are interleaved. -/
namespace NativeThunks.PathDecomposition
open PathOrder ContainerOutcomes

variable {config : Config} {set : DeclarationSet}

/-- A path loses its unit when a smaller path has one of the same file, both generated alone. -/
def LosesFile (alone : String → Generation) (path : String) : Prop :=
  ∃ unit, (alone path).unit? path = some unit ∧ ∃ smaller, smaller < path ∧
    ∃ other, (alone smaller).unit? smaller = some other ∧ other.fileName = unit.fileName

/-- What a whole generation adds to the diagnostics that a path has alone: nothing, or one
diagnostic about the file, which names the unit that has it. -/
inductive FileReport (set : DeclarationSet) (whole : Generation) (alone : String → Generation)
    (path : String) : List Diagnostic → Prop where
  | undisturbed (keeps : ¬ LosesFile alone path) : FileReport set whole alone path []
  | lost (loses : LosesFile alone path) (unit owner : GeneratedUnit) (first : Declaration)
      (made : (alone path).unit? path = some unit) (written : owner ∈ whole.units)
      (smaller : owner.path < path) (same : owner.fileName = unit.fileName)
      (head : (set.membersOf path).head? = some first) :
      FileReport set whole alone path
        [.duplicateUnitFile first.container unit.fileName owner.path]

/-- How a whole generation is put together from those of single paths. -/
structure Decomposition (config : Config) (set : DeclarationSet) (whole : Generation)
    (alone : String → Generation) (reports : String → List Diagnostic) : Prop where
  ran : ∀ path, Generation.run config (restrict set path) = .ok (alone path)
  increasing : set.paths.Pairwise (· < ·)
  occurring : ∀ path, path ∈ set.paths ↔ (restrict set path).declarations ≠ []
  /-- A path has the unit that it has alone, in every field, unless it loses the file. -/
  unit : ∀ path unit, whole.unit? path = some unit ↔
    (alone path).unit? path = some unit ∧ ¬ LosesFile alone path
  units : whole.units = set.paths.filterMap whole.unit?
  diagnostics : whole.diagnostics.entries = set.paths.flatMap fun path =>
    (alone path).diagnostics.entries ++ reports path
  reports : ∀ path, FileReport set whole alone path (reports path)
  /-- Any other interleaving of the same paths is generated alike. -/
  interleaving : ∀ other : DeclarationSet, (∀ path, other.membersOf path = set.membersOf path) →
    Generation.run config other = .ok whole

/-- The declarations of one path, generated alone, give the unit and the diagnostics of that path
and nothing else. -/
theorem ofSet_restrict (config : Config) (set : DeclarationSet) (path : String) :
    Generation.ofSet config (restrict set path) =
      ⟨(standalone? config set path).toList, ⟨findings config set path⟩⟩ := by
  have alike : outcome config (restrict set path) path = outcome config set path :=
    outcome_congr (membersOf_restrict_self set path)
  rw [Generation.ofSet, paths_restrict]
  split
  · rename_i empty
    simp [standalone?, findings, outcome, empty]
  · rw [List.foldl_cons, List.foldl_nil]
    generalize judgement : Generation.addPath config (restrict set path) {} path = next
    have taken := judgement ▸ addPath_taken config (restrict set path) {} path
    cases taken with
    | unitless absent =>
      rw [standalone?, alike] at absent
      simp [findings, standalone?, alike, absent]
    | dropped unit owner made found => cases found
    | written unit made free =>
      rw [standalone?, alike] at made
      simp [findings, standalone?, alike, made]

private theorem unit_of_restrict (config : Config) (set : DeclarationSet) (path : String) :
    (Generation.ofSet config (restrict set path)).unit? path = standalone? config set path := by
  rw [ofSet_restrict, Generation.unit?]
  cases made : standalone? config set path with
  | none => rfl
  | some unit => simp [standalone_path made]

/-- The generation of every path alone. -/
def aloneOf (config : Config) (set : DeclarationSet) (path : String) : Generation :=
  .ofSet config (restrict set path)

private theorem losesFile_iff (path : String) :
    LosesFile (aloneOf config set) path ↔
      (owner? config set set.paths path).isSome = true := by
  simp only [LosesFile, aloneOf, unit_of_restrict]
  constructor
  · rintro ⟨unit, made, smaller, less, other, present, same⟩
    apply Option.isSome_iff_ne_none.mpr
    intro free
    exact (owner_none_iff made).mp free smaller (standalone_mem_paths present) less other present same
  · intro outdone
    obtain ⟨owner, found⟩ := Option.isSome_iff_exists.mp outdone
    cases made : standalone? config set path with
    | none => simp [owner?, made] at found
    | some unit =>
      obtain ⟨smaller, _, less, present, same⟩ := owner_some made found
      exact ⟨unit, rfl, smaller, less, owner, present, same⟩

/-- Sets that agree on the members of every path come to the same generation. -/
theorem ofSet_congr {set other : DeclarationSet}
    (same : ∀ path, other.membersOf path = set.membersOf path) :
    Generation.ofSet config other = Generation.ofSet config set := by
  have step : Generation.addPath config other = Generation.addPath config set := by
    funext generation path
    rw [Generation.addPath, Generation.addPath, same]
  rw [Generation.ofSet, Generation.ofSet, paths_congr same, step]

private theorem file_report (config : Config) (set : DeclarationSet) (path : String) :
    FileReport set (.ofSet config set) (aloneOf config set) path
      (dropReport config set set.paths path) := by
  cases outdone : owner? config set set.paths path with
  | none =>
    rw [dropReport_of_free outdone]
    exact .undisturbed (by simp [losesFile_iff, outdone])
  | some owner =>
    obtain ⟨unit, standing, clash⟩ := (losesFile_iff path).mpr (Option.isSome_of_eq_some outdone)
    have made : standalone? config set path = some unit :=
      unit_of_restrict config set path ▸ standing
    obtain ⟨smaller, _, less, present, same⟩ := owner_some made outdone
    obtain ⟨first, origin⟩ := standalone_some made
    have written : owner ∈ (Generation.ofSet config set).units := by
      rw [mem_ofSet_units, written?, owner_free (paths_sorted set) made outdone,
        standalone_path present]
      exact present
    rw [dropReport_of_owner made outdone origin.head]
    exact .lost ⟨unit, standing, clash⟩ unit owner first standing written
      (standalone_path present ▸ less) same origin.head

/-- With a usable configuration every generation is put together, path by path, from the generations
of its paths alone. -/
theorem generation_decomposes (set : DeclarationSet) (valid : config.isValid = true) :
    ∃ whole alone reports, Generation.run config set = .ok whole ∧
      Decomposition config set whole alone reports := by
  refine ⟨.ofSet config set, aloneOf config set, dropReport config set set.paths,
    run_of_valid valid set, ?_⟩
  constructor
  case ran => exact fun path => run_of_valid valid (restrict set path)
  case increasing => exact paths_sorted set
  case occurring => exact mem_paths_iff set
  case unit =>
    intro path unit
    rw [losesFile_iff, aloneOf, unit_of_restrict, ofSet_unit, written?]
    split <;> simp [*]
  case units =>
    rw [ofSet_units]
    exact List.filterMap_congr fun path _ => (ofSet_unit config set path).symm
  case diagnostics => simp only [ofSet_diagnostics, aloneOf, ofSet_restrict]
  case reports => exact file_report config set
  case interleaving =>
    intro other same
    rw [run_of_valid valid, ofSet_congr same]

/-- Two types of one name and their members, interleaved; both want the same file. -/
def namesakes : DeclarationSet where
  declarations := [
    .method (.ofPath "engine::Camera") "Render",
    .method (.ofPath "editor::Camera") "Orbit",
    .getter (.ofPath "engine::Camera") "Enabled" .bool]

theorem generation_decomposes_namesakes : Config.isValid {} = true ∧
    ∃ whole alone reports, Generation.run {} namesakes = .ok whole ∧
      Decomposition {} namesakes whole alone reports :=
  have valid : Config.isValid {} = true := by decide +kernel
  ⟨valid, generation_decomposes namesakes valid⟩

end NativeThunks.PathDecomposition
