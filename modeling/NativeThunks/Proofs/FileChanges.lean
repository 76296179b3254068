import NativeThunks.Proofs.CommandRuns
import NativeThunks.Proofs.TreePlaces
import NativeThunks.Proofs.UnitFiles
import NativeThunks.Proofs.UnitForm

/-! What commands change in a tree of files. A command that fails before it writes has changed nothing.
One that writes its units changes their files, which are different ones, and makes missing folders on the
way to where they go; the verdict on what was left out comes after that and takes nothing back. The other
commands never change anything. -/
namespace NativeThunks.FileChanges
open Files Command CommandRuns TreePlaces UnitFiles ContainerOutcomes

variable {tree middle later after : FileTree} {input output : String} {config : Option String}

/-- Why a command comes to an end before anything is written. -/
inductive EndsEarly (tree : FileTree) (input : String) (config : Option String) :
    CommandError → Prop where
  | declarations {error}
      (failed : (ran (loadDeclarations FileTree.access input) tree).1 = .error error) :
      EndsEarly tree input config error
  | config {set error}
      (loaded : (ran (loadDeclarations FileTree.access input) tree).1 = .ok set)
      (failed : (ran (loadConfig FileTree.access config input) tree).1 = .error error) :
      EndsEarly tree input config error
  | generation {set settings setting}
      (loaded : (ran (loadDeclarations FileTree.access input) tree).1 = .ok set)
      (configured : (ran (loadConfig FileTree.access config input) tree).1 = .ok settings)
      (failed : Generation.run settings set = .error setting) :
      EndsEarly tree input config (.generation setting)

/-- A folder that a path leads through, the last one included, as far as the text of the path tells. -/
inductive OnTheWay : String → String → Prop where
  | here (path : String) : OnTheWay path path
  | around {path folder outer} (inside : parent? path = some folder)
      (further : OnTheWay folder outer) : OnTheWay path outer

/-- A place where nothing was is a folder now, on the way of a path. -/
def MadeAt (tree : FileTree) (path : String) (later : FileTree) (names : List String) : Prop :=
  node? tree.root names = none ∧ node? later.root names = some .folder ∧
    ∃ folder, OnTheWay path folder ∧ LeadsTo later folder names

/-- Nothing was changed but that folders were made on the way of a path. -/
structure FoldersMade (tree : FileTree) (path : String) (later : FileTree) : Prop where
  keeps : Keeps tree later
  places : ∀ names, node? later.root names = node? tree.root names ∨ MadeAt tree path later names

/-- Nothing was changed but the files of units in a folder, and each of them has its unit's source. -/
structure Stored (tree : FileTree) (folder : String) (units : List GeneratedUnit)
    (later : FileTree) : Prop where
  keeps : Keeps tree later
  held : ∀ unit ∈ units, ∃ names, later.locate (join folder unit.fileName) = .ok ⟨names, false⟩ ∧
    node? later.root names = some (.file unit.source)
  places : ∀ names, (∀ unit ∈ units, ¬LeadsTo later (join folder unit.fileName) names) →
    node? later.root names = node? tree.root names

/-- The files of units are in a folder, each with its unit's source. Every other place is as it was,
except that there may be new folders on the way to that folder. -/
structure Published (tree : FileTree) (folder : String) (units : List GeneratedUnit)
    (after : FileTree) : Prop where
  working : after.working = tree.working
  files : ∀ unit ∈ units, after.read (join folder unit.fileName) = .ok unit.source
  places : ∀ names, (∃ unit ∈ units, LeadsTo after (join folder unit.fileName) names) ∨
    node? after.root names = node? tree.root names ∨ MadeAt tree folder after names

private theorem quiet_access : Quiet FileTree.access := ⟨fun _ _ => ⟨_, rfl⟩, fun _ _ => ⟨_, rfl⟩⟩

theorem EndsEarly.runGenerator {error : CommandError} (ends : EndsEarly tree input config error) :
    ran (runGenerator FileTree.access input config) tree = (.error error, tree) := by
  have declarations := passive_loadDeclarations quiet_access input
  have settings := passive_loadConfig quiet_access config input
  cases ends with
  | declarations failed => exact ran_bind_error (declarations.ran_eq failed) _
  | config loaded failed =>
    exact (ran_bind_ok (declarations.ran_eq loaded) _).trans (ran_bind_error (settings.ran_eq failed) _)
  | generation loaded configured failed =>
    rw [ran_runGenerator (declarations.ran_eq loaded) (settings.ran_eq configured), failed]
    rfl

/-- Nothing else keeps a command from having something to write: a command has one outcome, so
whatever ends it early is the failure that was found. -/
theorem endsEarly_iff {error : CommandError} : EndsEarly tree input config error ↔
    (ran (runGenerator FileTree.access input config) tree).1 = .error error := by
  refine ⟨fun ends => congrArg Prod.fst ends.runGenerator, ?_⟩
  intro failed
  have only : ∀ other, EndsEarly tree input config other → other = error := by
    intro other ends
    exact Except.error.inj ((congrArg Prod.fst ends.runGenerator).symm.trans failed)
  cases loaded : (ran (loadDeclarations FileTree.access input) tree).1 with
  | error first => exact only first (.declarations loaded) ▸ .declarations loaded
  | ok set =>
    cases configured : (ran (loadConfig FileTree.access config input) tree).1 with
    | error second => exact only second (.config loaded configured) ▸ .config loaded configured
    | ok settings =>
      cases run : Generation.run settings set with
      | error setting =>
        have ends := EndsEarly.generation loaded configured run
        exact only _ ends ▸ ends
      | ok generation =>
        have declarations := (passive_loadDeclarations quiet_access input).ran_eq loaded
        have chosen := (passive_loadConfig quiet_access config input).ran_eq configured
        rw [ran_runGenerator declarations chosen, run] at failed
        cases failed

theorem FoldersMade.refl (tree : FileTree) (path : String) : FoldersMade tree path tree :=
  ⟨.refl tree, fun _ => .inl rfl⟩

theorem MadeAt.keeps {path : String} {names : List String} (made : MadeAt tree path middle names)
    (keeps : Keeps middle later) : MadeAt tree path later names := by
  obtain ⟨nothing, folder, way, on_way, leads⟩ := made
  exact ⟨nothing, keeps.folders _ folder, way, on_way, leads.keeps keeps⟩

/-- Folders made around a folder, and then folders on the way through it. -/
theorem FoldersMade.trans {path folder : String} (inside : parent? path = some folder)
    (first : FoldersMade tree folder middle) (second : FoldersMade middle path later) :
    FoldersMade tree path later := by
  refine ⟨first.keeps.trans second.keeps, ?_⟩
  intro names
  rcases first.places names with same | made
  · rw [MadeAt, ← same]
    exact second.places names
  · obtain ⟨nothing, there, way, on_way, leads⟩ := made.keeps second.keeps
    exact .inr ⟨nothing, there, way, .around inside on_way, leads⟩

private theorem foldersMade_one {path : String} (done : tree.createFolder path = .ok later) :
    FoldersMade tree path later := by
  obtain ⟨names, leads, nothing, changed⟩ := createFolder_ok done
  have keeps : Keeps tree later := changed.keeps (by simp [nothing])
  refine ⟨keeps, ?_⟩
  intro other
  by_cases same : other = names
  · subst same
    exact .inr ⟨nothing, changed.here, path, .here path, leads.keeps keeps⟩
  · exact .inl (changed.elsewhere other same)

/-- Whether all folders can be made or not, nothing else is changed. -/
theorem createFolders_made (fuel : Nat) (tree : FileTree) (path : String) :
    FoldersMade tree path (FileTree.createFolders fuel tree path).2 := by
  induction fuel generalizing tree path with
  | zero => exact .refl tree path
  | succ fuel ih =>
    unfold FileTree.createFolders
    by_cases empty : path = ""
    · simp only [if_pos empty]
      exact .refl tree path
    · simp only [if_neg empty]
      split
      · cases inside : parent? path with
        | none => exact .refl tree path
        | some folder =>
          have outer := ih tree folder
          rcases made : FileTree.createFolders fuel tree folder with ⟨fault | _, reached⟩ <;>
            rw [made] at outer <;> simp only [made]
          · exact outer.trans inside (.refl reached path)
          · apply outer.trans inside
            split
            · rename_i later done
              exact foldersMade_one done
            · exact .refl reached path
      · split
        · rename_i later done
          exact foldersMade_one done
        · exact .refl tree path

private theorem did_createFolders {answer : Except IoFault Unit}
    (done : did (FileTree.access.createFolders output) tree = (answer, later)) :
    FoldersMade tree output later := by
  have whole : did (FileTree.access.createFolders output) tree =
      FileTree.createFolders (output.length + 1) tree output := rfl
  have made := createFolders_made (output.length + 1) tree output
  rwa [← whole, done] at made

private theorem did_write {path text : String}
    (done : did (FileTree.access.write path text) tree = (.ok (), later)) :
    tree.write path text = .ok later := by
  cases wrote : tree.write path text with
  | ok reached =>
    have whole : did (FileTree.access.write path text) tree = (.ok (), reached) := by
      simp only [did, FileTree.access, StateT.run_bind, StateT.run_get, pure_bind, wrote]
      rfl
    rw [whole] at done
    exact congrArg Except.ok (Prod.mk.inj done).2
  | error fault =>
    have whole : did (FileTree.access.write path text) tree = (.error fault, tree) := by
      simp only [did, FileTree.access, StateT.run_bind, StateT.run_get, pure_bind, wrote]
      rfl
    rw [whole] at done
    cases (Prod.mk.inj done).1

theorem Stored.refl (tree : FileTree) (folder : String) : Stored tree folder [] tree :=
  ⟨.refl tree, by simp, fun _ _ => rfl⟩

/-- Files of different names in a folder are at different places. -/
theorem written_stored {folder : String} {units : List GeneratedUnit}
    (written : Written FileTree.access folder tree units after)
    (single : ∀ unit ∈ units, SingleComponent unit.fileName)
    (distinct : units.Pairwise fun earlier later => earlier.fileName ≠ later.fileName) :
    Stored tree folder units after := by
  induction written with
  | none world => exact .refl world folder
  | @next tree middle after unit rest wrote written ih =>
    obtain ⟨names, found, solid, changed⟩ := write_ok (did_write wrote)
    obtain ⟨apart, distinct⟩ := List.pairwise_cons.mp distinct
    have stored := ih (fun other member => single other (List.mem_cons_of_mem _ member)) distinct
    have keeps := changed.keeps solid
    have here := locate_keeps stored.keeps (locate_keeps keeps found)
    have untouched : ∀ other ∈ rest, ¬LeadsTo after (join folder other.fileName) names := by
      intro other member leads
      have own := single unit List.mem_cons_self
      have others := single other (List.mem_cons_of_mem _ member)
      have first := LeadsTo.last ⟨_, here⟩ own.single own.own
      have second := leads.last others.single others.own
      exact apart other member (Option.some.inj (first.symm.trans second))
    constructor
    case keeps => exact keeps.trans stored.keeps
    case held =>
      intro other member
      rcases List.mem_cons.mp member with rfl | member
      · exact ⟨names, here, (stored.places names untouched).trans changed.here⟩
      · exact stored.held other member
    case places =>
      intro other away
      rw [stored.places other fun later member => away later (List.mem_cons_of_mem _ member)]
      apply changed.elsewhere other
      rintro rfl
      exact away unit List.mem_cons_self ⟨_, here⟩

/-- Units of different files that were written into a folder, which was made as far as it was
missing. -/
theorem delivered_published {folder : String} {units : List GeneratedUnit}
    (delivered : Delivered FileTree.access folder tree units after)
    (single : ∀ unit ∈ units, SingleComponent unit.fileName)
    (distinct : units.Pairwise fun earlier later => earlier.fileName ≠ later.fileName) :
    Published tree folder units after := by
  obtain ⟨middle, folders, written⟩ := delivered
  have made := did_createFolders folders
  have stored := written_stored written single distinct
  constructor
  case working => exact (made.keeps.trans stored.keeps).working
  case files =>
    intro unit member
    obtain ⟨names, found, held⟩ := stored.held unit member
    exact read_of_place found held
  case places =>
    intro names
    apply or_iff_not_imp_left.mpr
    intro away
    have same := stored.places names fun unit member leads => away ⟨unit, member, leads⟩
    rcases made.places names with before | made
    · exact .inl (same.trans before)
    · exact .inr (made.keeps stored.keeps)

/-- The file of a unit is a name of its own, if it has no slash. -/
theorem unit_single {settings : Config} {set : DeclarationSet} {unit : GeneratedUnit}
    (member : unit ∈ (Generation.ofSet settings set).units) (plain : '/' ∉ unit.fileName.toList) :
    SingleComponent unit.fileName := by
  obtain ⟨first, origin⟩ := unit_origin member
  rw [origin.unitOf.fileName] at plain ⊢
  exact (unitFile_single_iff _).mpr fun slash => plain ((slash_mem_unitFile _).mpr slash)

private theorem generated_published {generation : Generation}
    (done : ran (runGenerator FileTree.access input config) tree = (.ok generation, middle))
    (plain : ∀ unit ∈ generation.units, '/' ∉ unit.fileName.toList)
    (delivered : Delivered FileTree.access output tree generation.units after) :
    Published tree output generation.units after := by
  obtain ⟨set, _, settings, _, _, run⟩ := runGenerator_ok done
  obtain rfl := run_ok run
  exact delivered_published delivered (fun unit member => unit_single member (plain unit member))
    ((UnitForm.units_pairwise settings set).imp And.right)

/-- What the commands change in any tree. Generating changes nothing if there is nothing to write, be it
for the declarations, the configuration or the generation itself; if it writes, it changes the files of
the units and makes missing folders, whatever its verdict is. -/
theorem command_changes (tree : FileTree) (input output : String) (config : Option String)
    (allow : Bool) :
    (∀ error, EndsEarly tree input config error ↔
      (ran (runGenerator FileTree.access input config) tree).1 = .error error) ∧
    (∀ error, EndsEarly tree input config error →
      ran (generate FileTree.access input output config allow) tree = (.error error, tree)) ∧
    (∀ generation after,
      (ran (runGenerator FileTree.access input config) tree).1 = .ok generation →
      (∀ unit ∈ generation.units, '/' ∉ unit.fileName.toList) →
      Delivered FileTree.access output tree generation.units after →
      ran (generate FileTree.access input output config allow) tree =
        (if allow then .ok (summaryOf output generation)
          else verdict generation (summaryOf output generation), after) ∧
      Published tree output generation.units after) ∧
    (ran (check FileTree.access input config) tree).2 = tree ∧
    (ran (symbols FileTree.access input config) tree).2 = tree := by
  refine ⟨?early, ?unchanged, ?published, passive_check quiet_access input config tree,
    passive_symbols quiet_access input config tree⟩
  case early =>
    intro error
    exact endsEarly_iff
  case unchanged =>
    intro error ends
    exact ran_generate_error ends.runGenerator allow
  case published =>
    intro generation after generated plain delivered
    have done := (passive_runGenerator quiet_access input config).ran_eq generated
    exact ⟨ran_generate_delivered done delivered allow, generated_published done plain delivered⟩

/-- On the tree of the lamp the missing input is an early end. Generating from the one that is there
fails as well, for what was left out, and has put its only unit into the folder before. -/
theorem command_changes_lamp :
    (∃ error, EndsEarly lampTree "absent.json" none error ∧
      ran (generate FileTree.access "absent.json" "out" none false) lampTree =
        (.error error, lampTree)) ∧
    (∃ (generation : Generation) (after : FileTree),
      generation.units.map (·.fileName) = ["Lamp_binding.rs"] ∧
      Delivered FileTree.access "out" lampTree generation.units after ∧
      (ran (generate FileTree.access "lamp.json" "out" none false) lampTree).2 = after ∧
      Published lampTree "out" generation.units after) ∧
    (ran (check FileTree.access "lamp.json" none) lampTree).2 = lampTree ∧
    (ran (symbols FileTree.access "lamp.json" none) lampTree).2 = lampTree := by
  have absent : (ran (loadDeclarations FileTree.access "absent.json") lampTree).1 =
      .error (.declarations "absent.json" (.io .notFound)) := by
    have nothing : lampTree.read "absent.json" = .error .notFound := by decide +kernel
    have looked : did (FileTree.access.read "absent.json") lampTree =
        (.error .notFound, lampTree) := congrArg (·, lampTree) nothing
    exact congrArg Prod.fst (ran_operation looked _)
  obtain ⟨generation, middle, after, done, names, _, delivered⟩ := lamp_generated
  have same : middle = lampTree := by
    have passive := passive_runGenerator quiet_access "lamp.json" none lampTree
    rwa [done] at passive
  subst same
  have plain : ∀ unit ∈ generation.units, '/' ∉ unit.fileName.toList := by
    intro unit member
    have named := List.mem_map_of_mem (f := (·.fileName)) member
    rw [names, List.mem_singleton] at named
    rw [named]
    decide
  obtain ⟨_, _, published, checked, listed⟩ :=
    command_changes lampTree "lamp.json" "out" none false
  have ends : EndsEarly lampTree "absent.json" none _ := .declarations absent
  obtain ⟨outcome, files⟩ := published generation after (congrArg Prod.fst done) plain delivered
  exact ⟨⟨_, ends, (command_changes lampTree "absent.json" "out" none false).2.1 _ ends⟩,
    ⟨generation, after, names, delivered, congrArg Prod.snd outcome, files⟩, checked, listed⟩

end NativeThunks.FileChanges
