import NativeThunks.Declaration.Document
import NativeThunks.Thunk

/-! Generation: from a set of declarations to one unit per container. Declarations are grouped by
container path and containers are taken in the order of their paths, so the order in which
containers occur in the set does not show. Members keep their order within a container. -/
namespace NativeThunks

/-- A member of a unit. -/
structure EmittedMember where
  name : String
  kind : MemberKind
  functionName : String
  entryPoint : String
  slot : String
deriving DecidableEq, Repr

def EmittedMember.ofPlan (plan : MemberPlan) : EmittedMember where
  name := plan.decl.name
  kind := plan.decl.kind
  functionName := plan.symbols.functionName
  entryPoint := plan.symbols.entryPoint
  slot := plan.symbols.slot

/-- The generated code of one container. -/
structure GeneratedUnit where
  path : String
  name : String
  nativeType : String
  fileName : String
  members : List EmittedMember
  wrappers : List Wrapper
  source : String
deriving DecidableEq, Repr

/-- The units of a set, and what was left out. -/
structure Generation where
  units : List GeneratedUnit := []
  diagnostics : Diagnostics := {}
deriving DecidableEq, Repr

def Container.unitFile (container : Container) : String := container.name ++ "_binding.rs"

/-! Members: the first of several with one entry point or one function name stays. -/

/-- The members of a container that are to be written, and what was left out. -/
structure Selection where
  plans : List MemberPlan := []
  diagnostics : List Diagnostic := []
deriving DecidableEq, Repr

namespace Selection

/-- Judges one more member. -/
def add (config : Config) (selection : Selection) (decl : Declaration) : Selection :=
  match decl.plan config with
  | .error faults => { selection with diagnostics := selection.diagnostics ++ faults }
  | .ok plan =>
    let symbols := plan.symbols
    if selection.plans.any (·.symbols.entryPoint == symbols.entryPoint) then
      { selection with
        diagnostics := selection.diagnostics ++ [.duplicateEntryPoint decl symbols.entryPoint] }
    else if selection.plans.any (·.symbols.functionName == symbols.functionName) then
      { selection with
        diagnostics :=
          selection.diagnostics ++ [.duplicateFunctionName decl symbols.functionName] }
    else { selection with plans := selection.plans ++ [plan] }

/-- Judges members in their order. -/
def ofMembers (config : Config) (members : List Declaration) : Selection :=
  members.foldl (add config) {}

end Selection

/-- The unit of a container for its selected members, unless there are none. -/
def unitOfPlans? (config : Config) (container : Container) (plans : List MemberPlan) :
    Option GeneratedUnit :=
  if plans.isEmpty then none
  else
    let thunks := ThunkList.ofPlans config plans
    some {
      path := container.path
      name := container.name
      nativeType := container.nativeTypeName
      fileName := container.unitFile
      members := plans.map .ofPlan
      wrappers := thunks.wrappers.entries
      source := thunks.source config container container.nativeTypeName }

/-- What a container and its members come to: a unit if any member is left, and the diagnostics. A
fault of the container leaves out all members and is the only diagnostic. -/
def generateContainer (config : Config) (container : Container) (members : List Declaration) :
    Option GeneratedUnit × List Diagnostic :=
  match container.fault? with
  | some fault => (none, [fault])
  | none =>
    let selection := Selection.ofMembers config members
    (unitOfPlans? config container selection.plans, selection.diagnostics)

/-! Containers -/

/-- Puts a path into an increasing list, unless it is there. -/
def insertPath (path : String) : List String → List String
  | [] => [path]
  | other :: rest =>
    if path = other then other :: rest
    else if path < other then path :: other :: rest
    else other :: insertPath path rest

/-- The paths of a set's containers in increasing order of their characters. -/
def DeclarationSet.paths (set : DeclarationSet) : List String :=
  set.declarations.foldl (fun paths decl => insertPath decl.container.path paths) []

/-- The members of the container with a path. -/
def DeclarationSet.membersOf (set : DeclarationSet) (path : String) : List Declaration :=
  set.declarations.filter (·.container.path == path)

namespace Generation

/-- Adds what one container comes to. A unit whose file is taken is left out. -/
def addContainer (generation : Generation) (container : Container)
    (outcome : Option GeneratedUnit × List Diagnostic) : Generation :=
  let diagnostics := generation.diagnostics.extend outcome.2
  match outcome.1 with
  | none => { generation with diagnostics := diagnostics }
  | some unit =>
    match generation.units.find? (·.fileName == unit.fileName) with
    | some owner =>
      { generation with
        diagnostics :=
          diagnostics.add (.duplicateUnitFile container unit.fileName owner.path) }
    | none => { units := generation.units ++ [unit], diagnostics := diagnostics }

/-- Generates the container with a path. The first member speaks for the container. -/
def addPath (config : Config) (set : DeclarationSet) (generation : Generation) (path : String) :
    Generation :=
  match set.membersOf path with
  | [] => generation
  | first :: rest =>
    generation.addContainer first.container
      (generateContainer config first.container (first :: rest))

def ofSet (config : Config) (set : DeclarationSet) : Generation :=
  set.paths.foldl (addPath config set) {}

/-- Generates all containers of a set with a configuration that can be used. -/
def run (config : Config) (set : DeclarationSet) : Except InvalidSetting Generation :=
  match config.invalid? with
  | some setting => .error setting
  | none => .ok (ofSet config set)

/-- The number of members in all units. -/
def memberCount (generation : Generation) : Nat :=
  (generation.units.flatMap (·.members)).length

/-- A failure with all diagnostics if anything was left out. -/
def check (generation : Generation) : Except Diagnostics Unit :=
  if generation.diagnostics.hasErrors then .error generation.diagnostics else .ok ()

/-- The unit of the container with a path. -/
def unit? (generation : Generation) (path : String) : Option GeneratedUnit :=
  generation.units.find? (·.path == path)

end Generation
end NativeThunks
