import NativeThunks.Command
import NativeThunks.Files.Tree

/-! What a command comes to. A command runs in a world of files, of which nothing is assumed: every
operation may answer anything and may change the world. All commands load the same declarations and
the same configuration in the same order, so what one of them finds there the others find as well.
Told here is that common start, and what every command adds to it. -/
namespace NativeThunks.CommandRuns
open Files Command

variable {World α β : Type} {files : FileAccess (StateM World)} {world middle after : World}
  {input output : String} {config : Option String}

/-- The answer or the failure of a command that runs in a world, and the world behind it. -/
def ran (command : ExceptT CommandError (StateM World) α) (world : World) :
    Except CommandError α × World := command.run.run world

/-- The answer of one operation on files, and the world behind it. -/
def did (operation : StateM World α) (world : World) : α × World := operation.run world

/-- Units are written into a folder, one after the other. -/
inductive Written (files : FileAccess (StateM World)) (folder : String) :
    World → List GeneratedUnit → World → Prop where
  | none (world : World) : Written files folder world [] world
  | next {world middle after unit rest}
      (wrote : did (files.write (join folder unit.fileName) unit.source) world = (.ok (), middle))
      (later : Written files folder middle rest after) :
      Written files folder world (unit :: rest) after

/-- A folder is there or is made, and units are written into it. -/
def Delivered (files : FileAccess (StateM World)) (folder : String) (world : World)
    (units : List GeneratedUnit) (after : World) : Prop :=
  ∃ made, did (files.createFolders folder) world = (.ok (), made) ∧
    Written files folder made units after

/-- Looking at files leaves the world as it is. -/
structure Quiet (files : FileAccess (StateM World)) : Prop where
  read : ∀ path world, ∃ answer, did (files.read path) world = (answer, world)
  isFile : ∀ path world, ∃ answer, did (files.isFile path) world = (answer, world)

/-- The paths of units in a folder. -/
def unitPaths (folder : String) (units : List GeneratedUnit) : List String :=
  units.map fun unit => join folder unit.fileName

/-- What is reported of a generation whose units are in a folder. -/
def summaryOf (folder : String) (generation : Generation) : Summary where
  written := unitPaths folder generation.units
  members := generation.memberCount
  diagnostics := generation.diagnostics.count
  report := if generation.diagnostics.hasErrors then some generation.diagnostics.summary else none

/-- A generation that is to be checked has its answer only if nothing was left out. -/
def verdict (generation : Generation) (answer : α) : Except CommandError α :=
  match generation.check with
  | .error diagnostics => .error (.leftOut diagnostics)
  | .ok () => .ok answer

private theorem ran_bind (first : ExceptT CommandError (StateM World) α)
    (next : α → ExceptT CommandError (StateM World) β) (world : World) :
    ran (first >>= next) world =
      match ran first world with
      | (.ok value, middle) => ran (next value) middle
      | (.error error, middle) => (.error error, middle) := by
  change (ExceptT.bindCont next (ran first world).1).run (ran first world).2 = _
  rcases ran first world with ⟨answer, middle⟩
  cases answer <;> rfl

/-- Behind a step that succeeds a command goes on. -/
theorem ran_bind_ok {first : ExceptT CommandError (StateM World) α} {value : α}
    (done : ran first world = (.ok value, middle))
    (next : α → ExceptT CommandError (StateM World) β) :
    ran (first >>= next) world = ran (next value) middle := by rw [ran_bind, done]

/-- A step that fails is the end of a command. -/
theorem ran_bind_error {first : ExceptT CommandError (StateM World) α} {error : CommandError}
    (failed : ran first world = (.error error, middle))
    (next : α → ExceptT CommandError (StateM World) β) :
    ran (first >>= next) world = (.error error, middle) := by rw [ran_bind, failed]

/-- Nothing else leads to an answer. -/
theorem ran_bind_ok_iff {first : ExceptT CommandError (StateM World) α}
    {next : α → ExceptT CommandError (StateM World) β} {answer : β} :
    ran (first >>= next) world = (.ok answer, after) ↔
      ∃ value middle, ran first world = (.ok value, middle) ∧
        ran (next value) middle = (.ok answer, after) := by
  constructor
  · intro done
    rcases start : ran first world with ⟨value | error, middle⟩
    · rw [ran_bind_error start] at done
      cases done
    · exact ⟨_, middle, rfl, (ran_bind_ok start next).symm.trans done⟩
  · rintro ⟨value, middle, start, later⟩
    rw [ran_bind_ok start, later]

@[simp] theorem ran_pure (value : α) (world : World) :
    ran (pure value) world = (.ok value, world) := rfl

@[simp] theorem ran_throw (error : CommandError) (world : World) :
    ran (throw error : ExceptT CommandError (StateM World) α) world = (.error error, world) := rfl

/-- An operation in the middle of a command does what it does alone. -/
theorem ran_operation {operation : StateM World α} {answer : α}
    (done : did operation world = (answer, middle))
    (next : α → ExceptT CommandError (StateM World) β) :
    ran (liftM operation >>= next) world = ran (next answer) middle := by
  have alone : ran (liftM operation) world = (.ok answer, middle) :=
    congrArg (fun result : α × World =>
      ((.ok result.1 : Except CommandError α), result.2)) done
  exact ran_bind_ok alone next

/-- Behind the loading a generation is decided by what was loaded. -/
theorem ran_runGenerator {set : DeclarationSet} {settings : Config}
    (loaded : ran (loadDeclarations files input) world = (.ok set, middle))
    (configured : ran (loadConfig files config input) middle = (.ok settings, after)) :
    ran (runGenerator files input config) world =
      ((Generation.run settings set).mapError .generation, after) := by
  rw [runGenerator, ran_bind_ok loaded, ran_bind_ok configured]
  cases Generation.run settings set <;> rfl

/-- A generation that succeeds has loaded a set and then a configuration, and has generated the one
with the other. -/
theorem runGenerator_ok {generation : Generation}
    (done : ran (runGenerator files input config) world = (.ok generation, after)) :
    ∃ set middle settings, ran (loadDeclarations files input) world = (.ok set, middle) ∧
      ran (loadConfig files config input) middle = (.ok settings, after) ∧
      Generation.run settings set = .ok generation := by
  obtain ⟨set, middle, loaded, rest⟩ := ran_bind_ok_iff.mp done
  obtain ⟨settings, reached, configured, rest⟩ := ran_bind_ok_iff.mp rest
  refine ⟨set, middle, settings, loaded, ?_⟩
  cases run : Generation.run settings set with
  | error setting =>
    simp only [run] at rest
    cases rest
  | ok found =>
    simp only [run] at rest
    cases rest
    exact ⟨configured, rfl⟩

/-- What is generated is decided by the configuration and the set. -/
theorem run_ok {settings : Config} {set : DeclarationSet} {generation : Generation}
    (done : Generation.run settings set = .ok generation) :
    generation = .ofSet settings set := by
  unfold Generation.run at done
  split at done <;> cases done
  rfl

/-- The symbols of a set are computed for the configuration that a generation would use. -/
theorem ran_symbols {set : DeclarationSet} {settings : Config}
    (loaded : ran (loadDeclarations files input) world = (.ok set, middle))
    (configured : ran (loadConfig files config input) middle = (.ok settings, after)) :
    ran (symbols files input config) world =
      (.ok (set.declarations.map (.ofDeclaration settings.receiverName)), after) := by
  rw [symbols, ran_bind_ok loaded, ran_bind_ok configured]
  rfl

/-- A check adds nothing to a generation but its verdict. -/
theorem ran_check_ok {generation : Generation}
    (done : ran (runGenerator files input config) world = (.ok generation, after)) :
    ran (check files input config) world = (verdict generation generation, after) := by
  rw [check, ran_bind_ok done, verdict]
  cases generation.check <;> rfl

theorem ran_check_error {error : CommandError}
    (failed : ran (runGenerator files input config) world = (.error error, after)) :
    ran (check files input config) world = (.error error, after) := ran_bind_error failed _

/-- Units are written exactly where every file of theirs can be, and their paths are answered in the
order of the units. -/
theorem ran_writeUnits_iff {folder : String} {units : List GeneratedUnit} {paths : List String} :
    ran (writeUnits files folder units) world = (.ok paths, after) ↔
      Written files folder world units after ∧ paths = unitPaths folder units := by
  induction units generalizing world paths with
  | nil =>
    constructor
    · intro done
      cases done
      exact ⟨.none _, rfl⟩
    · rintro ⟨written, rfl⟩
      cases written
      rfl
  | cons unit rest ih =>
    constructor
    · intro done
      rcases wrote : did (files.write (join folder unit.fileName) unit.source) world with
        ⟨fault | _, middle⟩ <;> rw [writeUnits, ran_operation wrote] at done
      · cases done
      · obtain ⟨others, reached, later, same⟩ := ran_bind_ok_iff.mp done
        cases same
        obtain ⟨written, rfl⟩ := ih.mp later
        exact ⟨.next wrote written, rfl⟩
    · rintro ⟨written, rfl⟩
      cases written with
      | next wrote later =>
        rw [writeUnits, ran_operation wrote, ran_bind_ok (ih.mpr ⟨later, rfl⟩)]
        rfl

/-- A command that generates writes the units whatever was left out, and only then gives its verdict,
unless it is to allow for what was left out. -/
theorem ran_generate_delivered {generation : Generation}
    (done : ran (runGenerator files input config) world = (.ok generation, middle))
    (delivered : Delivered files output middle generation.units after) (allow : Bool) :
    ran (generate files input output config allow) world =
      (if allow then .ok (summaryOf output generation)
        else verdict generation (summaryOf output generation), after) := by
  obtain ⟨made, folder, written⟩ := delivered
  rw [generate, ran_bind_ok done, ran_operation folder,
    ran_bind_ok (ran_writeUnits_iff.mpr ⟨written, rfl⟩), verdict]
  cases allow
  case true => rfl
  case false => cases generation.check <;> rfl

theorem ran_generate_error {error : CommandError}
    (failed : ran (runGenerator files input config) world = (.error error, after)) (allow : Bool) :
    ran (generate files input output config allow) world = (.error error, after) :=
  ran_bind_error failed _

/-- Nothing is reported of units that are not all written. -/
theorem ran_generate_ok {allow : Bool} {summary : Summary}
    (done : ran (generate files input output config allow) world = (.ok summary, after)) :
    ∃ generation middle,
      ran (runGenerator files input config) world = (.ok generation, middle) ∧
        Delivered files output middle generation.units after ∧
        summary = summaryOf output generation := by
  obtain ⟨generation, middle, generated, rest⟩ := ran_bind_ok_iff.mp done
  refine ⟨generation, middle, generated, ?_⟩
  rcases folder : did (files.createFolders output) middle with ⟨fault | _, made⟩ <;>
    rw [ran_operation folder] at rest
  · cases rest
  · obtain ⟨paths, reached, wrote, rest⟩ := ran_bind_ok_iff.mp rest
    obtain ⟨written, rfl⟩ := ran_writeUnits_iff.mp wrote
    cases allow with
    | true =>
      cases rest
      exact ⟨⟨made, folder, written⟩, rfl⟩
    | false =>
      cases checked : generation.check with
      | error diagnostics =>
        simp only [checked] at rest
        cases rest
      | ok passed =>
        simp only [checked] at rest
        cases rest
        exact ⟨⟨made, folder, written⟩, rfl⟩

/-- A command that leaves every world as it is. -/
def Passive (command : ExceptT CommandError (StateM World) α) : Prop :=
  ∀ world, (ran command world).2 = world

theorem Passive.ran_eq {command : ExceptT CommandError (StateM World) α}
    {answer : Except CommandError α} (passive : Passive command)
    (done : (ran command world).1 = answer) : ran command world = (answer, world) :=
  Prod.ext done (passive world)

theorem Passive.bind {first : ExceptT CommandError (StateM World) α}
    {next : α → ExceptT CommandError (StateM World) β} (start : Passive first)
    (later : ∀ value, Passive (next value)) : Passive (first >>= next) := by
  intro world
  have same := start world
  rcases stepped : ran first world with ⟨error | value, middle⟩ <;> rw [stepped] at same
  · rw [ran_bind_error stepped]
    exact same
  · rw [ran_bind_ok stepped]
    exact (later value middle).trans same

theorem Passive.operation {operation : StateM World α}
    {next : α → ExceptT CommandError (StateM World) β}
    (alone : ∀ world, ∃ answer, did operation world = (answer, world))
    (later : ∀ answer, Passive (next answer)) : Passive (liftM operation >>= next) := by
  intro world
  obtain ⟨answer, looked⟩ := alone world
  rw [ran_operation looked]
  exact later answer world

private theorem passive_pure (value : α) :
    Passive (pure value : ExceptT CommandError (StateM World) α) := fun _ => rfl

private theorem passive_throw (error : CommandError) :
    Passive (throw error : ExceptT CommandError (StateM World) α) := fun _ => rfl

section
variable (quiet : Quiet files)
include quiet

theorem passive_loadDeclarations (input : String) : Passive (loadDeclarations files input) := by
  refine .operation (quiet.read input) fun answer => ?_
  split
  · exact passive_throw _
  · split
    · exact passive_pure _
    · exact passive_throw _

private theorem passive_loadConfigAt (path : String) : Passive (loadConfigAt files path) := by
  refine .operation (quiet.read path) fun answer => ?_
  split
  · exact passive_throw _
  · split
    · exact passive_pure _
    · exact passive_throw _

theorem passive_loadConfig (config : Option String) (input : String) :
    Passive (loadConfig files config input) := by
  unfold loadConfig
  split
  · exact passive_loadConfigAt quiet _
  · split
    · exact passive_pure _
    · refine .operation (quiet.isFile _) fun found => ?_
      split
      · exact passive_loadConfigAt quiet _
      · exact passive_pure _

theorem passive_runGenerator (input : String) (config : Option String) :
    Passive (runGenerator files input config) := by
  apply (passive_loadDeclarations quiet input).bind
  intro set
  apply (passive_loadConfig quiet config input).bind
  intro settings
  split
  · exact passive_pure _
  · exact passive_throw _

/-- A check only looks at files. -/
theorem passive_check (input : String) (config : Option String) :
    Passive (check files input config) := by
  apply (passive_runGenerator quiet input config).bind
  intro generation
  split
  · exact passive_throw _
  · exact passive_pure _

/-- Listing symbols only looks at files. -/
theorem passive_symbols (input : String) (config : Option String) :
    Passive (symbols files input config) :=
  (passive_loadDeclarations quiet input).bind fun _ =>
    (passive_loadConfig quiet config input).bind fun _ => passive_pure _

end

/-- A tree of files in which the only method of a type is declared twice. -/
def lampTree : FileTree :=
  .ofFiles [("lamp.json",
    "[[[[\"Lamp\",\"Lamp\"],\"On\",\"method\"],[[\"Lamp\",\"Lamp\"],\"On\",\"method\"]]]")]

/-- The first of the two is generated and the second is left out. -/
theorem lamp_generated : ∃ generation middle after,
    ran (runGenerator FileTree.access "lamp.json" none) lampTree = (.ok generation, middle) ∧
      generation.units.map (·.fileName) = ["Lamp_binding.rs"] ∧
      generation.diagnostics.count = 1 ∧
      Delivered FileTree.access "out" middle generation.units after := by
  have found : (match (ran (runGenerator FileTree.access "lamp.json" none) lampTree).1 with
      | .ok generation => generation.units.map (·.fileName) == ["Lamp_binding.rs"] &&
          generation.diagnostics.count == 1
      | .error _ => false) = true := by decide +kernel
  have wrote : (match (ran (generate FileTree.access "lamp.json" "out" none true) lampTree).1 with
      | .ok _ => true
      | .error _ => false) = true := by decide +kernel
  rcases generated : ran (generate FileTree.access "lamp.json" "out" none true) lampTree with
    ⟨error | summary, after⟩ <;> rw [generated] at wrote
  · cases wrote
  · obtain ⟨generation, middle, done, delivered, _⟩ := ran_generate_ok generated
    rw [done] at found
    obtain ⟨names, one⟩ := Bool.and_eq_true_iff.mp found
    exact ⟨generation, middle, after, done, beq_iff_eq.mp names, beq_iff_eq.mp one, delivered⟩

end NativeThunks.CommandRuns
