import NativeThunks.Files.Tree
import NativeThunks.Proofs.CommandRuns
import NativeThunks.Proofs.EmittedPositions

/-! The commands agree, on any files whatever. Checking and generating reach the same verdict, for the
same cause, where what is generated can be written; allowing for what was left out takes away that
verdict and nothing else. The list of symbols is made without judging anything, and still says of every
member that was generated what its unit says, at the position of its declaration. -/
namespace NativeThunks.CommandAgreement
open Files Command CommandRuns ContainerOutcomes EmittedPositions SelectionRuns

variable {World : Type} {files : FileAccess (StateM World)} {world : World}
  {input output : String} {config : Option String}

/-- If there is anything to generate, its units can be written into a folder. -/
def Deliverable (files : FileAccess (StateM World)) (world : World) (input output : String)
    (config : Option String) : Prop :=
  ∀ generation middle, ran (runGenerator files input config) world = (.ok generation, middle) →
    ∃ after, Delivered files output middle generation.units after

/-- A check fails exactly when generating does, and for the same cause. When diagnostics are allowed,
generating fails for no other causes than those that leave nothing to write. -/
structure SameFailures (files : FileAccess (StateM World)) (world : World) (input output : String)
    (config : Option String) : Prop where
  checked : ∀ error, (ran (check files input config) world).1 = .error error ↔
    (ran (generate files input output config false) world).1 = .error error
  allowed : ∀ error, (ran (generate files input output config true) world).1 = .error error ↔
    (ran (runGenerator files input config) world).1 = .error error

/-- A row tells the names of a declaration, whether it is legal or not. -/
structure RowOf (decl : Declaration) (row : SymbolRow) : Prop where
  container : row.container = decl.container.path
  member : row.member = decl.name
  kind : row.kind = decl.kind
  entryPoint : row.entryPoint = decl.entryPoint
  function : row.function = decl.functionName

/-- A row says what the unit with a path says of a member. -/
structure SaysOf (path : String) (emitted : EmittedMember) (row : SymbolRow) : Prop where
  container : row.container = path
  member : row.member = emitted.name
  kind : row.kind = emitted.kind
  entryPoint : row.entryPoint = emitted.entryPoint
  function : row.function = emitted.functionName

/-- The list of the symbols of a set, next to what was generated of it. -/
structure Listing (settings : Config) (set : DeclarationSet) (generation : Generation)
    (rows : List SymbolRow) : Prop where
  /-- There is one row for every declaration, in their order. -/
  complete : List.Forall₂ RowOf set.declarations rows
  /-- The members of a unit are those of the emitted positions of its path, one by one, and at each of
  these positions a row says the same. -/
  placed : ∀ unit ∈ generation.units, List.Forall₂ (fun position member => ∃ decl row,
      set.declarations[position]? = some decl ∧ rows[position]? = some row ∧
      member = memberOf decl ∧ SaysOf unit.path member row)
    (origins settings set unit.path) unit.members

private theorem verdict_error_iff {α β : Type} (generation : Generation) (first : α) (second : β)
    (error : CommandError) :
    verdict generation first = .error error ↔ verdict generation second = .error error := by
  unfold verdict
  cases generation.check <;> simp

private theorem sameFailures (deliverable : Deliverable files world input output config) :
    SameFailures files world input output config := by
  rcases loaded : ran (runGenerator files input config) world with ⟨failure | generation, middle⟩
  · have failed : ∀ allow, ran (generate files input output config allow) world =
        (.error failure, middle) := ran_generate_error loaded
    constructor
    case checked =>
      intro error
      rw [ran_check_error loaded, failed, Except.error.injEq, Except.error.injEq]
    case allowed =>
      intro error
      rw [failed, loaded, Except.error.injEq, Except.error.injEq]
  · obtain ⟨after, delivered⟩ := deliverable generation middle loaded
    constructor
    case checked =>
      intro error
      rw [ran_check_ok loaded, ran_generate_delivered loaded delivered]
      exact verdict_error_iff _ _ _ _
    case allowed =>
      intro error
      rw [ran_generate_delivered loaded delivered, loaded]
      simp

/-- A report is given exactly when there is something to report. -/
theorem report_iff (folder : String) (generation : Generation) :
    (summaryOf folder generation).report.isSome = true ↔ 0 < generation.diagnostics.count := by
  cases entries : generation.diagnostics.entries <;>
    simp [summaryOf, Diagnostics.hasErrors, Diagnostics.count, entries]

private theorem rowOf_declaration (receiver : String) (decl : Declaration) :
    RowOf decl (.ofDeclaration receiver decl) := ⟨rfl, rfl, rfl, rfl, rfl⟩

theorem RowOf.saysOf {decl : Declaration} {row : SymbolRow} (row_of : RowOf decl row) :
    SaysOf decl.container.path (memberOf decl) row :=
  ⟨row_of.container, row_of.member, row_of.kind, row_of.entryPoint, row_of.function⟩

/-- An emitted position of a path has a declaration of that path. -/
theorem origin_found {settings : Config} {set : DeclarationSet} {path : String} {position : Nat}
    (origin : position ∈ origins settings set path) :
    ∃ decl, set.declarations[position]? = some decl ∧ decl.container.path = path := by
  obtain ⟨_, placed⟩ := List.mem_filter.mp origin
  cases found : set.declarations[position]? with
  | none => simp [isAt, found] at placed
  | some decl => exact ⟨decl, rfl, (isAt_iff found).mp placed⟩

/-- Reading positions one after the other gives one declaration for each, if all of them are inside. -/
theorem forall₂_declarationsAt {declarations : List Declaration} {positions : List Nat}
    {P : Declaration → Prop}
    (inside : ∀ position ∈ positions, ∃ decl, declarations[position]? = some decl ∧ P decl) :
    List.Forall₂ (fun position decl => declarations[position]? = some decl ∧ P decl) positions
      (declarationsAt declarations positions) := by
  induction positions with
  | nil => exact .nil
  | cons position rest ih =>
    obtain ⟨decl, found, holds⟩ := inside position List.mem_cons_self
    rw [declarationsAt, List.filterMap_cons_some found]
    exact .cons ⟨found, holds⟩ (ih fun later member => inside later (List.mem_cons_of_mem _ member))

private theorem listing {settings : Config} {set : DeclarationSet} {generation : Generation}
    (done : Generation.run settings set = .ok generation) (receiver : String) :
    Listing settings set generation (set.declarations.map (.ofDeclaration receiver)) := by
  obtain rfl := run_ok done
  constructor
  case complete =>
    refine List.forall₂_map_right_iff.mpr (List.forall₂_same.mpr fun decl _ => ?_)
    exact rowOf_declaration receiver decl
  case placed =>
    intro unit member
    rw [unit_members member, DeclarationSet.membersOf, emitted, declarationsAt_filter, ← origins]
    apply List.forall₂_map_right_iff.mpr
    apply (forall₂_declarationsAt fun position => origin_found).imp
    rintro position decl ⟨found, named⟩
    refine ⟨decl, .ofDeclaration receiver decl, found, by simp [found], rfl, ?_⟩
    exact named ▸ (rowOf_declaration receiver decl).saysOf

/-- Whatever the files are, the commands agree: on failures, where the units can be written; on what is
reported; and on the names of every declaration that was generated. -/
theorem commands_agree (files : FileAccess (StateM World)) (world : World) (input output : String)
    (config : Option String) :
    (Deliverable files world input output config →
      SameFailures files world input output config) ∧
    (∀ allow summary, (ran (generate files input output config allow) world).1 = .ok summary →
      ∃ generation, (ran (runGenerator files input config) world).1 = .ok generation ∧
        summary.diagnostics = generation.diagnostics.count ∧
        (summary.report.isSome = true ↔ 0 < generation.diagnostics.count)) ∧
    ∀ generation, (ran (runGenerator files input config) world).1 = .ok generation →
      ∃ set middle settings rows, ran (loadDeclarations files input) world = (.ok set, middle) ∧
        (ran (loadConfig files config input) middle).1 = .ok settings ∧
        Generation.run settings set = .ok generation ∧
        (ran (symbols files input config) world).1 = .ok rows ∧
        Listing settings set generation rows := by
  refine ⟨sameFailures, fun allow summary done => ?_, fun generation done => ?_⟩
  · obtain ⟨generation, middle, generated, _, rfl⟩ := ran_generate_ok (Prod.ext done rfl)
    exact ⟨generation, congrArg Prod.fst generated, rfl, report_iff output generation⟩
  · obtain ⟨set, middle, settings, loaded, configured, run⟩ := runGenerator_ok (Prod.ext done rfl)
    exact ⟨set, middle, settings, _, loaded, congrArg Prod.fst configured, run,
      congrArg Prod.fst (ran_symbols loaded configured), listing run settings.receiverName⟩

/-- On the tree of the lamp a check fails, and so does generating, unless diagnostics are allowed; the
symbols of both declarations are listed all the same. -/
theorem commands_agree_lamp :
    Deliverable FileTree.access lampTree "lamp.json" "out" none ∧
    SameFailures FileTree.access lampTree "lamp.json" "out" none ∧
    (∃ diagnostics,
      (ran (check FileTree.access "lamp.json" none) lampTree).1 = .error (.leftOut diagnostics)) ∧
    ∃ set settings generation rows, Generation.run settings set = .ok generation ∧
      (ran (symbols FileTree.access "lamp.json" none) lampTree).1 = .ok rows ∧
      Listing settings set generation rows := by
  obtain ⟨generation, middle, after, done, _, one, delivered⟩ := lamp_generated
  have deliverable : Deliverable FileTree.access lampTree "lamp.json" "out" none := by
    intro other reached again
    obtain ⟨same, rfl⟩ := Prod.mk.inj (done.symm.trans again)
    cases same
    exact ⟨after, delivered⟩
  obtain ⟨agree, _, list⟩ := commands_agree FileTree.access lampTree "lamp.json" "out" none
  refine ⟨deliverable, agree deliverable, ⟨generation.diagnostics, ?_⟩, ?_⟩
  · have reported : generation.check = .error generation.diagnostics := by
      cases entries : generation.diagnostics.entries with
      | nil => simp [Diagnostics.count, entries] at one
      | cons fault rest => simp [Generation.check, Diagnostics.hasErrors, entries]
    rw [ran_check_ok done, verdict, reported]
  · obtain ⟨set, _, settings, rows, _, _, run, listed, listing⟩ :=
      list generation (congrArg Prod.fst done)
    exact ⟨set, settings, generation, rows, run, listed, listing⟩

end NativeThunks.CommandAgreement
