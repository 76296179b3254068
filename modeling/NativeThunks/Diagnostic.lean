import NativeThunks.Declaration

/-! Diagnostics about declarations that cannot be bound. They are collected and do not stop
generation: what they are about is left out, and everything else is generated. -/
namespace NativeThunks

inductive DiagnosticKind where
  | typeMustBeTopLevel
  | typeMustNotBeGeneric
  | typeMustBeGenerated
  | memberMustNotBeGeneric
  | methodMustBeGenerated
  | accessorMustBeGenerated
  | cannotPassByRef
  | cannotBeReturned
  | invalidName
  | malformedSignature
  | duplicateEntryPoint
  | duplicateFunctionName
  | duplicateUnitFile
deriving DecidableEq, Repr

namespace DiagnosticKind

def all : List DiagnosticKind := [
  .typeMustBeTopLevel, .typeMustNotBeGeneric, .typeMustBeGenerated, .memberMustNotBeGeneric,
  .methodMustBeGenerated, .accessorMustBeGenerated, .cannotPassByRef, .cannotBeReturned,
  .invalidName, .malformedSignature, .duplicateEntryPoint, .duplicateFunctionName,
  .duplicateUnitFile]

/-- The code of a kind, which never changes its meaning. -/
def code : DiagnosticKind → String
  | .typeMustBeTopLevel => "BG0001"
  | .typeMustNotBeGeneric => "BG0002"
  | .typeMustBeGenerated => "BG0003"
  | .memberMustNotBeGeneric => "BG0004"
  | .methodMustBeGenerated => "BG0005"
  | .accessorMustBeGenerated => "BG0006"
  | .cannotPassByRef => "BG0007"
  | .cannotBeReturned => "BG0008"
  | .invalidName => "BG0009"
  | .malformedSignature => "BG0010"
  | .duplicateEntryPoint => "BG0011"
  | .duplicateFunctionName => "BG0012"
  | .duplicateUnitFile => "BG0013"

/-- The heading of a kind in summaries. -/
def title : DiagnosticKind → String
  | .typeMustBeTopLevel => "Native type must be top-level"
  | .typeMustNotBeGeneric => "Native type must not be generic"
  | .typeMustBeGenerated => "Native type must be marked for generation"
  | .memberMustNotBeGeneric => "Native member must not be generic"
  | .methodMustBeGenerated => "Native method must be marked for generation"
  | .accessorMustBeGenerated => "Native property must be marked for generation"
  | .cannotPassByRef => "Parameter cannot be passed by reference"
  | .cannotBeReturned => "Type cannot be returned"
  | .invalidName => "Invalid name"
  | .malformedSignature => "Malformed member signature"
  | .duplicateEntryPoint => "Duplicate entry point"
  | .duplicateFunctionName => "Duplicate function name"
  | .duplicateUnitFile => "Duplicate unit file"

/-- Whether a kind is about a whole type. -/
def isTypeLevel : DiagnosticKind → Bool
  | .typeMustBeTopLevel | .typeMustNotBeGeneric | .typeMustBeGenerated | .duplicateUnitFile => true
  | _ => false

end DiagnosticKind

/-- Where a diagnostic applies. Each part may be unknown. -/
structure DiagnosticLocation where
  container : Option String := none
  member : Option String := none
  source : Option SourceLocation := none
deriving DecidableEq, Repr

namespace DiagnosticLocation

def ofContainer (container : Container) : DiagnosticLocation where
  container := some container.path
  source := container.location

def ofMember (decl : Declaration) : DiagnosticLocation where
  container := some decl.container.path
  member := some decl.name
  source := decl.place

/-- The wording of a place: the position in the source, then the names. -/
def text (location : DiagnosticLocation) : String :=
  let position :=
    match location.source with
    | some source => source.text ++ ": "
    | none => ""
  let names :=
    match location.container, location.member with
    | some container, some member => container ++ "::" ++ member
    | some container, none => container
    | none, some member => "::" ++ member
    | none, none => "<unknown location>"
  position ++ names

end DiagnosticLocation

structure Diagnostic where
  kind : DiagnosticKind
  location : DiagnosticLocation := {}
  message : String
deriving DecidableEq, Repr

namespace Diagnostic

def aboutContainer (kind : DiagnosticKind) (container : Container) (message : String) :
    Diagnostic where
  kind := kind
  location := .ofContainer container
  message := message

def aboutMember (kind : DiagnosticKind) (decl : Declaration) (message : String) : Diagnostic where
  kind := kind
  location := .ofMember decl
  message := message

/-- A type with native members is declared inside another one. -/
def typeMustBeTopLevel (container : Container) : Diagnostic :=
  aboutContainer .typeMustBeTopLevel container
    ("The type '" ++ container.path ++ "' must be top-level because it contains native members")

/-- A type with native members is generic. -/
def typeMustNotBeGeneric (container : Container) : Diagnostic :=
  aboutContainer .typeMustNotBeGeneric container
    ("The type '" ++ container.path ++ "' must not be generic because it contains native members")

/-- A type with native members does not accept generated ones. -/
def typeMustBeGenerated (container : Container) : Diagnostic :=
  aboutContainer .typeMustBeGenerated container
    ("The type '" ++ container.path ++
      "' must be marked for generated members because it contains native members")

/-- The name of a type is no identifier. -/
def invalidTypeName (container : Container) : Diagnostic :=
  aboutContainer .invalidName container
    ("The type name '" ++ container.name ++ "' is not a Rust identifier")

/-- A native member is generic. -/
def memberMustNotBeGeneric (decl : Declaration) : Diagnostic :=
  aboutMember .memberMustNotBeGeneric decl
    ("The native " ++ decl.kind.text ++ " '" ++ decl.name ++ "' must not be generic")

/-- A native member does not ask for a generated body. -/
def memberMustBeGenerated (decl : Declaration) : Diagnostic :=
  let kind : DiagnosticKind :=
    if decl.kind.isAccessor then .accessorMustBeGenerated else .methodMustBeGenerated
  aboutMember kind decl
    ("The native " ++ decl.kind.text ++ " '" ++ decl.name ++
      "' must be marked for a generated body")

/-- A parameter does not cross the boundary in its mode. -/
def cannotPassByRef (decl : Declaration) (parameter mode type : String) : Diagnostic :=
  aboutMember .cannotPassByRef decl
    ("The parameter '" ++ parameter ++ "' cannot be passed by '" ++ mode ++
      "' because it is of type '" ++ type ++ "'")

/-- A value does not cross the boundary as a result. -/
def cannotBeReturned (decl : Declaration) (type : String) : Diagnostic :=
  aboutMember .cannotBeReturned decl ("The return value cannot be of type '" ++ type ++ "'")

/-- A name cannot be spliced into generated code. -/
def invalidName (decl : Declaration) (what name : String) : Diagnostic :=
  aboutMember .invalidName decl ("The " ++ what ++ " '" ++ name ++ "' is not valid Rust syntax")

/-- The parameters or the result do not fit the kind of the member. -/
def malformedSignature (decl : Declaration) (reason : String) : Diagnostic :=
  aboutMember .malformedSignature decl
    ("The native " ++ decl.kind.text ++ " '" ++ decl.name ++ "' " ++ reason)

/-- Another member has the same entry point. -/
def duplicateEntryPoint (decl : Declaration) (entryPoint : String) : Diagnostic :=
  aboutMember .duplicateEntryPoint decl
    ("The entry point '" ++ entryPoint ++ "' is already bound by another member of '" ++
      decl.container.path ++ "'")

/-- Another member has the same function name. -/
def duplicateFunctionName (decl : Declaration) (functionName : String) : Diagnostic :=
  aboutMember .duplicateFunctionName decl
    ("The function '" ++ functionName ++ "' is already defined by another member of '" ++
      decl.container.path ++ "'")

/-- Another type has the same unit file. -/
def duplicateUnitFile (container : Container) (fileName takenBy : String) : Diagnostic :=
  aboutContainer .duplicateUnitFile container
    ("The unit file '" ++ fileName ++ "' is already written for '" ++ takenBy ++ "'")

/-- The wording of a diagnostic on a line of its own. -/
def text (diagnostic : Diagnostic) : String :=
  "error[" ++ diagnostic.kind.code ++ "] at " ++ diagnostic.location.text ++ ": " ++
    diagnostic.message

end Diagnostic

/-- Diagnostics in the order of their discovery. -/
structure Diagnostics where
  entries : List Diagnostic := []
deriving DecidableEq, Repr

namespace Diagnostics

def add (diagnostics : Diagnostics) (diagnostic : Diagnostic) : Diagnostics :=
  ⟨diagnostics.entries ++ [diagnostic]⟩

/-- Adds several diagnostics in their order. -/
def extend (diagnostics : Diagnostics) (more : List Diagnostic) : Diagnostics :=
  more.foldl add diagnostics

def merge (diagnostics other : Diagnostics) : Diagnostics :=
  ⟨diagnostics.entries ++ other.entries⟩

def count (diagnostics : Diagnostics) : Nat := diagnostics.entries.length

def hasErrors (diagnostics : Diagnostics) : Bool := !diagnostics.entries.isEmpty

def ofKind (diagnostics : Diagnostics) (kind : DiagnosticKind) : List Diagnostic :=
  diagnostics.entries.filter (·.kind == kind)

/-- A summary shows so many diagnostics of a kind. -/
def shownPerKind : Nat := 10

/-- The part of a summary about one kind: a heading, the first diagnostics, and the number of those
that are not shown. -/
def group (kind : DiagnosticKind) (entries : List Diagnostic) : List String :=
  ["## " ++ kind.code ++ " " ++ kind.title ++ " (" ++ toString entries.length ++ "):"] ++
  (entries.take shownPerKind).map (fun entry =>
    "  - " ++ entry.location.text ++ ": " ++ entry.message) ++
  (if shownPerKind < entries.length then
    ["  ... and " ++ toString (entries.length - shownPerKind) ++ " more"] else []) ++
  [""]

/-- The kinds that occur, in the order of their codes, each with its diagnostics. -/
def groups (diagnostics : Diagnostics) : List (DiagnosticKind × List Diagnostic) :=
  (DiagnosticKind.all.map fun kind => (kind, diagnostics.ofKind kind)).filter (!·.2.isEmpty)

def summaryLines (diagnostics : Diagnostics) : List String :=
  if diagnostics.entries.isEmpty then ["No diagnostics"]
  else
    ["Found " ++ toString diagnostics.count ++ " diagnostic(s):", ""] ++
    diagnostics.groups.flatMap fun (kind, entries) => group kind entries

/-- The summary of all diagnostics by their kinds. -/
def summary (diagnostics : Diagnostics) : String := "\n".intercalate diagnostics.summaryLines

/-- All diagnostics, one to a line. -/
def compact (diagnostics : Diagnostics) : String :=
  "\n".intercalate (diagnostics.entries.map Diagnostic.text)

/-- The wording of a failure for the sake of these diagnostics. -/
def failureMessage (diagnostics : Diagnostics) : String :=
  "Generation reported " ++ toString diagnostics.count ++ " diagnostic(s):\n" ++
    diagnostics.summary

end Diagnostics
end NativeThunks
