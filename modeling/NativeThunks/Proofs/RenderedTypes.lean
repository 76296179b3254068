import NativeThunks.Proofs.PlanStages
import NativeThunks.Proofs.SpelledTypes
import NativeThunks.Samples

/-! The types in the generated code. A path that a declaration supplies is judged alone, where a sum of
bounds is a type. It is then spelled behind pointers and references, where a sum is none. -/
namespace NativeThunks.RenderedTypes
open BracketedTexts Grammar PlanStages SpelledTypes TypeFronts

variable {config : Config} {decl : Declaration} {plan : MemberPlan} {crossing : Crossing} {path : String}

/-- Where the path of a type stands in its spelling. -/
inductive Place where
  | behind (sigils : List Sigil)
  | optional

namespace Place

/-- The path with what stands around it. -/
def spell : Place → String → String
  | .behind sigils, path => SpelledTypes.spell sigils path
  | .optional, path => "::core::option::Option<&" ++ path ++ ">"

/-- Whether a path that is a type by itself may stand there. Only the last pointer or reference
matters. -/
def Admits : Place → String → Prop
  | .behind sigils, path => ∀ last ∈ sigils.getLast?, FitsBehind last path
  | .optional, path => FitsBehind .reference path ∧ ¬OpenEnd path.toList

theorem isType_iff (place : Place) (accepted : isType path = true) :
    isType (place.spell path) = true ↔ place.Admits path := by
  cases place with
  | optional => exact isType_optional accepted
  | behind sigils =>
    rcases List.eq_nil_or_concat' sigils with rfl | ⟨front, last, rfl⟩
    · exact iff_of_true accepted (by simp [Admits])
    · apply (isType_spell accepted front last).trans
      simp [Admits]

end Place

/-- The pointer that the type itself puts in front of its path. -/
def ownSigils : TypeRef → List Sigil
  | .pointer _ true => [.mutPointer]
  | .pointer _ false => [.constPointer]
  | _ => []

/-- What a mode puts in front of the native type. -/
def nativeSigils : PassMode → List Sigil
  | .value => []
  | .ref | .out => [.mutPointer]
  | .in => [.constPointer]

/-- What a mode puts in front of the managed type. -/
def managedSigils : PassMode → List Sigil
  | .value => []
  | .ref | .out => [.mutReference]
  | .in => [.reference]

/-- The place of the path in the native type. An object has none there. -/
def nativePlace (crossing : Crossing) : Place :=
  match crossing.type with
  | .nativeObject _ _ => .behind []
  | type => .behind (nativeSigils crossing.mode ++ ownSigils type)

/-- The place of the path in the managed type. -/
def managedPlace (crossing : Crossing) : Place :=
  match crossing.type with
  | .nativeObject _ true => .optional
  | .nativeObject _ false => .behind (managedSigils crossing.mode ++ [.reference])
  | type => .behind (managedSigils crossing.mode ++ ownSigils type)

/-- The paths of the type may stand in their place. -/
def Fits (place : Crossing → Place) (crossing : Crossing) : Prop :=
  ∀ path ∈ crossing.type.paths, (place crossing).Admits path

private theorem isType_of_path {place : Crossing → Place} (only : crossing.type.paths = [path])
    (accepted : ∀ path ∈ crossing.type.paths, isType path = true) :
    isType ((place crossing).spell path) = true ↔ Fits place crossing := by
  have member : path ∈ crossing.type.paths := only ▸ List.mem_singleton_self path
  apply ((place crossing).isType_iff (accepted path member)).trans
  simp [Fits, only]

/-- A text that is a type behind every pointer and reference. -/
def Solid (name : String) : Prop := isType name = true ∧ ∀ sigil, FitsBehind sigil name

theorem Solid.spell {name : String} (solid : Solid name) (sigils : List Sigil) :
    isType (spell sigils name) = true :=
  (Place.isType_iff (.behind sigils) solid.1).mpr fun last _ => solid.2 last

theorem Solid.fits {place : Crossing → Place} {sigils : List Sigil} (solid : Solid path)
    (only : crossing.type.paths = [path]) (behind : place crossing = .behind sigils) :
    Fits place crossing := by
  intro given member
  rw [only] at member
  rw [List.mem_singleton.mp member, behind]
  intro last _
  exact solid.2 last

private theorem solid_word :
    ∀ name ∈ ["bool", "i32", "str", "String"] ++ Primitive.all.map Primitive.name,
    Solid name := by
  have words : ∀ name ∈ ["bool", "i32", "str", "String"] ++ Primitive.all.map Primitive.name,
      isIdentifier name = true ∧ Identifiers.Bare name := by decide +kernel
  intro name member
  exact word_fits (words name member).1 (words name member).2

private theorem solid_primitive (name : Primitive) : Solid name.name :=
  solid_word _ (by cases name <;> decide)

private theorem solid_unit : Solid "()" := by
  have fits : isType "()" = true ∧ isTightType "()" = true ∧
      dropByteOrderMark "()".toList = "()".toList ∧ beginsWithLifetime "()" = false := by decide +kernel
  exact ⟨fits.1, fun _ => ⟨fits.2.1, fits.2.2.1, fun _ => fits.2.2.2⟩⟩

private theorem opaque_isType : isType opaquePointer = true := by decide +kernel

private theorem returned_text_isType : isType "::std::string::String" = true := by decide +kernel

private theorem isType_of_builtIn {place : Crossing → Place} {text name : String} (solid : Solid name)
    (none : crossing.type.paths = []) (sigils : List Sigil) (spelled : text = spell sigils name) :
    isType text = true ↔ Fits place crossing :=
  iff_of_true (spelled ▸ solid.spell sigils) (by simp [Fits, none])

section
variable (accepted : ∀ path ∈ crossing.type.paths, isType path = true)
include accepted

private theorem nativeType_iff :
    isType crossing.nativeType.text = true ↔ Fits nativePlace crossing := by
  obtain ⟨type, mode⟩ := crossing
  cases type with
  | unit => exact isType_of_builtIn solid_unit rfl (nativeSigils mode) (by cases mode <;> rfl)
  | primitive name =>
    exact isType_of_builtIn (solid_primitive name) rfl (nativeSigils mode) (by cases mode <;> rfl)
  | bool =>
    exact isType_of_builtIn (solid_word "i32" (by decide)) rfl (nativeSigils mode)
      (by cases mode <;> rfl)
  | str owned => exact iff_of_true opaque_isType (by simp [Fits, TypeRef.paths])
  | nativeObject path nullable =>
    exact iff_of_true opaque_isType (by simp [Fits, nativePlace, Place.Admits])
  | pointer pointee mutable =>
    rw [← isType_of_path rfl accepted]
    cases mutable <;> cases mode <;> rfl
  | enum path repr | fnPointer path | named path =>
    rw [← isType_of_path rfl accepted]
    cases mode <;> rfl

/-- Objects are passed by value only, so nothing stands in front of an optional one. -/
theorem managedType_iff (passes : crossing.violation? .parameter = none) :
    isType crossing.managedType = true ↔ Fits managedPlace crossing := by
  obtain ⟨type, mode⟩ := crossing
  cases type with
  | unit => exact isType_of_builtIn solid_unit rfl (managedSigils mode) (by cases mode <;> rfl)
  | primitive name =>
    exact isType_of_builtIn (solid_primitive name) rfl (managedSigils mode) (by cases mode <;> rfl)
  | bool =>
    exact isType_of_builtIn (solid_word "bool" (by decide)) rfl (managedSigils mode)
      (by cases mode <;> rfl)
  | str owned =>
    cases owned with
    | true =>
      exact isType_of_builtIn (solid_word "String" (by decide)) rfl (managedSigils mode)
        (by cases mode <;> rfl)
    | false =>
      exact isType_of_builtIn (solid_word "str" (by decide)) rfl (managedSigils mode ++ [.reference])
        (by cases mode <;> rfl)
  | nativeObject path nullable =>
    rw [← isType_of_path rfl accepted]
    cases nullable with
    | false => cases mode <;> rfl
    | true =>
      cases mode with
      | value => rfl
      | ref | out | «in» => cases passes
  | pointer pointee mutable =>
    rw [← isType_of_path rfl accepted]
    cases mutable <;> cases mode <;> rfl
  | enum path repr | fnPointer path | named path =>
    rw [← isType_of_path rfl accepted]
    cases mode <;> rfl

end

/-- A result comes by value, and is no object. -/
theorem managedReturnType_iff {type : TypeRef} (accepted : ∀ path ∈ type.paths, isType path = true)
    (passes : (Crossing.ofReturn type).violation? .result = none) :
    isType (Crossing.ofReturn type).managedReturnType = true ↔ Fits managedPlace (.ofReturn type) := by
  have passed (plain : (Crossing.ofReturn type).violation? .parameter = none)
      (same : (Crossing.ofReturn type).managedReturnType = (Crossing.ofReturn type).managedType) :
      isType (Crossing.ofReturn type).managedReturnType = true ↔ Fits managedPlace (.ofReturn type) :=
    same ▸ managedType_iff accepted plain
  cases type with
  | str owned =>
    exact iff_of_true returned_text_isType (by simp [Fits, Crossing.ofReturn, TypeRef.paths])
  | nativeObject path nullable => cases passes
  | unit | primitive name | bool | enum path repr | pointer pointee mutable | fnPointer path
  | named path =>
    exact passed rfl rfl

private theorem crossings_pass (silent : decl.crossingFaults = []) :
    (∀ parameter ∈ decl.params, (Crossing.ofParameter parameter).violation? .parameter = none) ∧
      (Crossing.ofReturn decl.ret).violation? .result = none := by
  obtain ⟨params, ret⟩ := List.append_eq_nil_iff.mp silent
  constructor
  · intro parameter member
    have none := List.filterMap_eq_nil_iff.mp params parameter member
    exact Option.map_eq_none_iff.mp none
  · by_contra faulty
    simp [Option.isSome_iff_ne_none, faulty] at ret

/-- A type in the code of a planned member is one exactly when the path in it may stand where it is
spelled: behind a pointer or a reference a path is no sum of bounds and begins with no byte order mark,
right behind a shared reference it begins with no lifetime either, and in angle brackets it leaves no
line comment open at its end. -/
theorem rendered_isType_iff (planned : decl.plan config = .ok plan) :
    (∀ parameter ∈ plan.params,
      (isType parameter.crossing.nativeType.text = true ↔ Fits nativePlace parameter.crossing) ∧
      (isType parameter.crossing.managedType = true ↔ Fits managedPlace parameter.crossing)) ∧
    (isType plan.ret.nativeType.text = true ↔ Fits nativePlace plan.ret) ∧
    (isType plan.ret.managedReturnType = true ↔ Fits managedPlace plan.ret) := by
  obtain ⟨passed, rfl⟩ := plan_ok planned
  have paths := (names_accepted passed.names).typePaths
  obtain ⟨params, ret⟩ := crossings_pass passed.crossings
  have ofRet : ∀ path ∈ decl.ret.paths, isType path = true := by
    intro path member
    exact paths path (List.mem_flatMap.mpr ⟨decl.ret, by simp, member⟩)
  refine ⟨?_, nativeType_iff ofRet, managedReturnType_iff ofRet ret⟩
  intro planned listed
  obtain ⟨parameter, member, rfl⟩ := List.mem_map.mp listed
  have ofParameter : ∀ path ∈ parameter.type.paths, isType path = true := by
    intro path spelled
    exact paths path (List.mem_flatMap.mpr
      ⟨parameter.type, List.mem_append_left _ (List.mem_map_of_mem member), spelled⟩)
  exact ⟨nativeType_iff ofParameter, managedType_iff ofParameter (params parameter member)⟩

/-- Plain paths may stand behind pointers. -/
theorem rendered_isType_project :
    let project := { Declaration.method Samples.camera "Project" with
      params := [{ name := "origin", type := .named "Vector3", mode := .ref }]
      ret := .pointer "u8" false }
    let plan := MemberPlan.ofDeclaration project {}
    project.plan {} = .ok plan ∧
      (∀ parameter ∈ plan.params, isType parameter.crossing.nativeType.text = true ∧
        isType parameter.crossing.managedType = true) ∧
      isType plan.ret.nativeType.text = true ∧ isType plan.ret.managedReturnType = true := by
  intro project plan
  have planned : project.plan {} = .ok plan := by decide +kernel
  have solid : Solid "Vector3" := word_fits (by decide +kernel) (by decide +kernel)
  have solid' : Solid "u8" := solid_word _ (by decide)
  obtain ⟨params, native, managed⟩ := rendered_isType_iff planned
  refine ⟨planned, fun parameter listed => ?_, native.mpr (solid'.fits rfl rfl),
    managed.mpr (solid'.fits rfl rfl)⟩
  obtain ⟨native, managed⟩ := params parameter listed
  obtain rfl := List.mem_singleton.mp listed
  exact ⟨native.mpr (solid.fits rfl rfl), managed.mpr (solid.fits rfl rfl)⟩

/-- A sum of bounds is a type and none behind a pointer. -/
theorem rendered_sum :
    let watch := { Declaration.method Samples.camera "Watch" with
      params := [{ name := "source", type := .named "dyn Read + Send", mode := .ref }] }
    let plan := MemberPlan.ofDeclaration watch {}
    Config.isValid {} = true ∧ watch.plan {} = .ok plan ∧ ∀ parameter ∈ plan.params,
      isType parameter.crossing.nativeType.text = false ∧
        isType parameter.crossing.managedType = false := by
  decide +kernel

end NativeThunks.RenderedTypes
