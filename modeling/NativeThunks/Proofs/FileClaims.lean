import NativeThunks.Proofs.ContainerOutcomes
import Mathlib.Data.List.Forall2
import Mathlib.Data.Option.Basic

/-! Who gets a file. The units of different paths have nothing to do with each other but that each
of them wants a file, and which paths go without a unit depends on these files alone. Two runs in
which every path wants the same file therefore write units for the same paths and report the same
clashes, be it that they differ in the configuration or in the set. -/
namespace NativeThunks.FileClaims
open PathOrder ContainerOutcomes

variable {config first second : Config} {set other : DeclarationSet}

/-- The file that a path wants: that of the unit it has by itself. -/
def file? (config : Config) (set : DeclarationSet) (path : String) : Option String :=
  (standalone? config set path).map (·.fileName)

/-- The first of some paths that wants a file is the one whose unit has it. -/
private theorem find_claim (config : Config) (set : DeclarationSet) (paths : List String)
    (file : String) :
    (paths.findSome? fun path => (standalone? config set path).filter (·.fileName == file)).map
        (·.path) = paths.find? fun path => file? config set path == some file := by
  induction paths with
  | nil => rfl
  | cons path rest ih =>
    rw [List.findSome?_cons, List.find?_cons, file?]
    cases made : standalone? config set path with
    | none => simpa using ih
    | some unit =>
      by_cases same : unit.fileName = file
      · simp [same, Option.filter, standalone_path made]
      · have different : (some unit.fileName == some file) = false := by simpa using same
        simpa [same, different, Option.filter] using ih

/-- A path is kept from its file by the first smaller path that wants it as well. -/
theorem owner_path (config : Config) (set : DeclarationSet) (paths : List String)
    (path : String) :
    (owner? config set paths path).map (·.path) = (file? config set path).bind fun file =>
      (paths.filter (· < path)).find? fun smaller => file? config set smaller == some file := by
  unfold owner?
  cases made : standalone? config set path with
  | none => simp [file?, made]
  | some unit =>
    have claimed : file? config set path = some unit.fileName := by simp [file?, made]
    rw [claimed, Option.bind_some, Option.bind_some]
    exact find_claim config set _ unit.fileName

/-- Where all paths want the same files, the same paths are kept from theirs, and by the same. -/
theorem owner_congr (files : ∀ path, file? second other path = file? first set path)
    (paths : List String) (path : String) :
    (owner? second other paths path).map (·.path) = (owner? first set paths path).map (·.path) := by
  simp only [owner_path, files]

theorem owner_isSome_congr (files : ∀ path, file? second other path = file? first set path)
    (paths : List String) (path : String) :
    (owner? second other paths path).isSome = (owner? first set paths path).isSome := by
  have same := congrArg Option.isSome (owner_congr files paths path)
  simpa only [Option.isSome_map] using same

/-- The report about a file depends on the files that are wanted, not on the units. -/
theorem dropReport_congr (files : ∀ path, file? second set path = file? first set path)
    (paths : List String) (path : String) :
    dropReport second set paths path = dropReport first set paths path := by
  have claimed := files path
  have owners := owner_congr files paths path
  unfold file? at claimed
  unfold dropReport
  cases left : standalone? second set path <;> cases right : standalone? first set path <;>
    cases upper : owner? second set paths path <;> cases lower : owner? first set paths path <;>
    simp_all [fileReport]

/-- If every path comes to units of one file and to the same diagnostics in both configurations, then
so does the whole set: it has units for the same paths, related as they are alone, and the same
diagnostics. -/
theorem ofSet_related {related : GeneratedUnit → GeneratedUnit → Prop}
    (alone : ∀ path, Option.Rel related (standalone? first set path) (standalone? second set path))
    (named : ∀ left right, related left right → right.fileName = left.fileName)
    (found : ∀ path, findings second set path = findings first set path) :
    List.Forall₂ related (Generation.ofSet first set).units (Generation.ofSet second set).units ∧
      (Generation.ofSet second set).diagnostics = (Generation.ofSet first set).diagnostics := by
  have files : ∀ path, file? second set path = file? first set path := by
    intro path
    have both := alone path
    unfold file?
    generalize standalone? first set path = left at both ⊢
    generalize standalone? second set path = right at both ⊢
    cases both with
    | none => rfl
    | some both => simp [named _ _ both]
  constructor
  · rw [ofSet_units, ofSet_units]
    have written : ∀ path, Option.Rel related (written? first set set.paths path)
        (written? second set set.paths path) := by
      intro path
      rw [written?, written?, owner_isSome_congr files]
      split
      · exact .none
      · exact alone path
    have pairs : List.Forall₂ (fun left right : String => left = right) set.paths set.paths :=
      List.forall₂_same.mpr fun _ _ => rfl
    refine List.rel_filterMap (fun path _ same => ?_) pairs
    subst same
    exact written path
  · have entries : (Generation.ofSet second set).diagnostics.entries =
        (Generation.ofSet first set).diagnostics.entries := by
      simp only [ofSet_diagnostics, found, dropReport_congr files]
    exact congrArg Diagnostics.mk entries

end NativeThunks.FileClaims
