import NativeThunks.Config
import NativeThunks.Crossing
import NativeThunks.Diagnostic

/-! What may be generated. A container is judged once, and a fault leaves out all of its members. A
member is judged in stages: its attributes, its signature, its names, and every value in its
signature. All faults of one stage are reported, and no later stage is entered. What passes becomes
a plan, from which thunks are written without further checks. -/
namespace NativeThunks

/-- Names of locals that every thunk may declare. -/
def thunkLocals : List String := ["__native", "__result"]

/-- The greatest number of arguments of a native function, the receiver included. -/
def maxNativeArity : Nat := 12

/-- The first reason why a container gets no members. -/
def Container.fault? (container : Container) : Option Diagnostic :=
  if container.nested then some (.typeMustBeTopLevel container)
  else if container.generic then some (.typeMustNotBeGeneric container)
  else if !container.generated then some (.typeMustBeGenerated container)
  else if !Grammar.isIdentifier container.name then some (.invalidTypeName container)
  else none

/-- A parameter that passed every stage. -/
structure PlannedParameter where
  /-- The name in the generated code, with reserved words escaped. -/
  ident : String
  crossing : Crossing
deriving DecidableEq, Repr

def PlannedParameter.ofParameter (parameter : Parameter) : PlannedParameter where
  ident := Naming.escapeReserved parameter.name
  crossing := .ofParameter parameter

/-- A member that passed every stage. -/
structure MemberPlan where
  decl : Declaration
  symbols : MemberSymbols
  params : List PlannedParameter
  ret : Crossing
deriving DecidableEq, Repr

/-- The plan of a member, as it is if no stage objects. -/
def MemberPlan.ofDeclaration (decl : Declaration) (config : Config) : MemberPlan where
  decl := decl
  symbols := .ofDeclaration decl config.receiverName
  params := decl.params.map .ofParameter
  ret := .ofReturn decl.ret

namespace Declaration

/-- The number of arguments of the native function. -/
def nativeArity (decl : Declaration) : Nat :=
  decl.params.length + if decl.isStatic then 0 else 1

/-- Faults of the attributes, of which the first is reported. -/
def attributeFaults (decl : Declaration) : List Diagnostic :=
  if decl.generic then [.memberMustNotBeGeneric decl]
  else if !decl.generated then [.memberMustBeGenerated decl]
  else []

/-- Reasons why a signature does not fit the kind of the member. -/
def kindReasons (decl : Declaration) : List String :=
  match decl.kind with
  | .method => []
  | .propertyGetter =>
    (if decl.params.isEmpty then [] else ["must not take parameters"]) ++
    (if decl.ret.isUnit then ["must return a value"] else [])
  | .propertySetter =>
    (match decl.params with
      | [value] => if value.mode.isByRef then ["must take its value by value"] else []
      | _ => ["must take exactly one parameter"]) ++
    (if decl.ret.isUnit then [] else ["must not return a value"])

/-- The reason why there are too many arguments. -/
def arityReasons (decl : Declaration) : List String :=
  if maxNativeArity < decl.nativeArity then
    ["takes " ++ toString decl.nativeArity ++ " native arguments; at most " ++
      toString maxNativeArity ++ " are supported"]
  else []

/-- Reasons why parameters have no value to pass. -/
def unitReasons (decl : Declaration) : List String :=
  (decl.params.filter (·.type.isUnit)).map fun parameter =>
    "has a parameter '" ++ parameter.name ++ "' of type '()'"

def signatureFaults (decl : Declaration) : List Diagnostic :=
  (decl.kindReasons ++ decl.arityReasons ++ decl.unitReasons).map (.malformedSignature decl)

/-- Whether a parameter of this name could be declared. Names that begin with two underscores are
kept for the thunks. -/
def isParameterName (ident : String) : Bool :=
  Grammar.isIdentifier ident && !(['_', '_'].isPrefixOf ident.toList)

/-- Faults of the parameters' names, given the names before them: a name must be usable and new.
Answers also the names that are taken afterwards. -/
def parameterNameFaults (decl : Declaration) :
    List String → List String → List Diagnostic × List String
  | [], taken => ([], taken)
  | ident :: rest, taken =>
    let (here, taken) :=
      if !isParameterName ident then ([.invalidName decl "parameter name" ident], taken)
      else if ident ∈ taken then ([.invalidName decl "repeated parameter name" ident], taken)
      else ([], ident :: taken)
    let (later, taken) := parameterNameFaults decl rest taken
    (here ++ later, taken)

/-- The fault of the receiver's name, given the names of the parameters. -/
def receiverFaults (decl : Declaration) (receiver : Option String) (taken : List String) :
    List Diagnostic :=
  match receiver with
  | none => []
  | some name =>
    if !Grammar.isIdentifier name || name ∈ thunkLocals || name ∈ taken then
      [.invalidName decl "receiver name" name]
    else []

/-- The paths in the types of the parameters and of the result. -/
def typePaths (decl : Declaration) : List String :=
  (decl.params.map (·.type) ++ [decl.ret]).flatMap TypeRef.paths

/-- Faults of the names that the thunk of the member is made of. -/
def nameFaults (decl : Declaration) (plan : MemberPlan) : List Diagnostic :=
  let symbols := plan.symbols
  let (parameters, taken) := decl.parameterNameFaults (plan.params.map (·.ident)) []
  (if Grammar.isIdentifier symbols.functionName then []
    else [.invalidName decl "function name" symbols.functionName]) ++
  (if Grammar.isIdentifier symbols.slot then []
    else [.invalidName decl "entry point" symbols.entryPoint]) ++
  parameters ++
  decl.receiverFaults symbols.receiver taken ++
  (decl.typePaths.filter fun path => !Grammar.isType path).map (.invalidName decl "type path")

/-- The diagnostic for a parameter that cannot cross. -/
def parameterFault? (decl : Declaration) (parameter : Parameter) : Option Diagnostic :=
  ((Crossing.ofParameter parameter).violation? .parameter).map fun violation =>
    match violation with
    | .cannotPassByRef =>
      .cannotPassByRef decl parameter.name parameter.mode.text parameter.type.display
    | .cannotBeReturned => .cannotBeReturned decl parameter.type.display

/-- Faults of the values in the signature: the parameters in their order, then the result. -/
def crossingFaults (decl : Declaration) : List Diagnostic :=
  decl.params.filterMap decl.parameterFault? ++
  (if ((Crossing.ofReturn decl.ret).violation? .result).isSome then
    [.cannotBeReturned decl decl.ret.display] else [])

/-- The plan of a member, or the faults of the first stage that has any. -/
def plan (decl : Declaration) (config : Config) : Except (List Diagnostic) MemberPlan :=
  let plan := MemberPlan.ofDeclaration decl config
  if !decl.attributeFaults.isEmpty then .error decl.attributeFaults
  else if !decl.signatureFaults.isEmpty then .error decl.signatureFaults
  else if !(decl.nameFaults plan).isEmpty then .error (decl.nameFaults plan)
  else if !decl.crossingFaults.isEmpty then .error decl.crossingFaults
  else .ok plan

end Declaration
end NativeThunks
