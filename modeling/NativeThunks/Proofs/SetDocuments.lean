import NativeThunks.Proofs.TypeDocuments

/-! Sets of declarations as documents. A set is read back from its own text, and from every text of
a document that restates its document. -/
namespace NativeThunks.SetDocuments
open Json JsonTexts JsonReading Restatements RecordReading TypeDocuments Document

private theorem option_eq_null_iff {α : Type} {encode : α → Value} (solid : ∀ x, encode x ≠ .null)
    (datum : Option α) : Value.option encode datum = .null ↔ datum = none := by
  cases datum <;> simp [Value.option, solid]

private theorem string_ne_null (text : String) : Value.string text ≠ .null := by simp

private theorem location_ne_null (location : SourceLocation) : location.toJson ≠ .null := by
  simp [SourceLocation.toJson]

private theorem lookup_kind (kind : MemberKind) : lookup kinds (kindWord kind) = .ok kind := by
  cases kind <;> rfl

private theorem lookup_visibility (visibility : Visibility) :
    lookup visibilities (visibilityWord visibility) = .ok visibility := by
  cases visibility <;> rfl

private theorem lookup_mode (mode : PassMode) : lookup modes mode.text = .ok mode := by
  cases mode <;> rfl

private theorem visibilityWord_eq_private_iff (visibility : Visibility) :
    visibilityWord visibility = "private" ↔ visibility = .hidden := by
  cases visibility <;> simp [visibilityWord]

private theorem text_eq_value_iff (mode : PassMode) : mode.text = "value" ↔ mode = .value := by
  cases mode <;> simp [PassMode.text]

/-- The draft of a location of which some fields have been read. -/
@[simp] def locationDraft (location : SourceLocation) (seen : String → Bool) : LocationDraft where
  file := taken seen "file" location.file
  line := taken seen "line" location.line
  column := taken seen "column" location.column

private theorem decodes_location (location : SourceLocation) :
    Decodes .location locationRecord.decode location.toJson location := by
  refine decodes_record (locationDraft location) ⟨rfl, by simp, rfl, ?_, ?_⟩
  · exact
      .cons (reads_field (decodes_string _)) <|
      .cons (reads_field (decodes_u32 _)) <|
      .cons (reads_field (decodes_u32 _)) .nil
  · intro seen covered
    obtain ⟨file, line, column⟩ : seen "file" = true ∧ seen "line" = true ∧
        (seen "column" = true ∨ location.column = 0) := by
      simpa [ObjectKind.defaults, ← UInt32.toNat_inj] using covered
    simp [locationRecord, locationDraft, need_taken file, need_taken line, getD_taken column, bind,
      Except.bind, pure, Except.pure]

/-- The draft of a container of which some fields have been read. -/
@[simp] def containerDraft (container : Container) (seen : String → Bool) : ContainerDraft where
  path := taken seen "path" container.path
  name := taken seen "name" container.name
  nativeName := taken seen "native_name" container.nativeName
  generic := taken seen "generic" container.generic
  nested := taken seen "nested" container.nested
  generated := taken seen "generated" container.generated
  location := taken seen "location" container.location

private theorem decodes_container (container : Container) :
    Decodes .container containerRecord.decode container.toJson container := by
  refine decodes_record (containerDraft container) ⟨rfl, by simp, rfl, ?_, ?_⟩
  · exact
      .cons (reads_field (decodes_string _)) <|
      .cons (reads_field (decodes_string _)) <|
      .cons (reads_field (decodes_option string_ne_null decodes_string)) <|
      .cons (reads_field (decodes_bool _)) <|
      .cons (reads_field (decodes_bool _)) <|
      .cons (reads_field (decodes_bool _)) <|
      .cons (reads_field (decodes_option location_ne_null decodes_location)) .nil
  · intro seen covered
    obtain ⟨path, name, nativeName, generic, nested, generated, location⟩ :
        seen "path" = true ∧ seen "name" = true ∧
        (seen "native_name" = true ∨ container.nativeName = none) ∧
        (seen "generic" = true ∨ container.generic = false) ∧
        (seen "nested" = true ∨ container.nested = false) ∧
        (seen "generated" = true ∨ container.generated = true) ∧
        (seen "location" = true ∨ container.location = none) := by
      simpa [ObjectKind.defaults, option_eq_null_iff string_ne_null,
        option_eq_null_iff location_ne_null] using covered
    simp [containerRecord, containerDraft, need_taken path, need_taken name, getD_taken nativeName,
      getD_taken generic, getD_taken nested, getD_taken generated, getD_taken location, bind,
      Except.bind, pure, Except.pure]

/-- The draft of a parameter of which some fields have been read. -/
@[simp] def parameterDraft (parameter : Parameter) (seen : String → Bool) : ParameterDraft where
  name := taken seen "name" parameter.name
  type := taken seen "ty" parameter.type
  mode := taken seen "mode" parameter.mode

private theorem decodes_parameter (parameter : Parameter) :
    Decodes .parameter parameterRecord.decode parameter.toJson parameter := by
  refine decodes_record (parameterDraft parameter) ⟨rfl, by simp, rfl, ?_, ?_⟩
  · exact
      .cons (reads_field (decodes_string _)) <|
      .cons (reads_field (decodes_type _)) <|
      .cons (reads_field (decodes_variant (lookup_mode _))) .nil
  · intro seen covered
    obtain ⟨name, type, mode⟩ : seen "name" = true ∧ seen "ty" = true ∧
        (seen "mode" = true ∨ parameter.mode = .value) := by
      simpa [ObjectKind.defaults, text_eq_value_iff] using covered
    simp [parameterRecord, parameterDraft, need_taken name, need_taken type, getD_taken mode, bind,
      Except.bind, pure, Except.pure]

/-- The draft of a declaration of which some fields have been read. -/
@[simp] def declarationDraft (decl : Declaration) (seen : String → Bool) : DeclarationDraft where
  container := taken seen "container" decl.container
  name := taken seen "name" decl.name
  kind := taken seen "kind" decl.kind
  isStatic := taken seen "static" decl.isStatic
  visibility := taken seen "visibility" decl.visibility
  accessorVisibility := taken seen "accessor_visibility" decl.accessorVisibility
  params := taken seen "params" decl.params
  ret := taken seen "ret" decl.ret
  nativeName := taken seen "native_name" decl.nativeName
  thisName := taken seen "this_name" decl.thisName
  generic := taken seen "generic" decl.generic
  generated := taken seen "generated" decl.generated
  location := taken seen "location" decl.location

private theorem visibility_ne_null (visibility : Visibility) :
    Value.string (visibilityWord visibility) ≠ .null := string_ne_null _

private theorem decodes_declaration (decl : Declaration) :
    Decodes .declaration declarationRecord.decode decl.toJson decl := by
  refine decodes_record (declarationDraft decl) ⟨rfl, by simp, rfl, ?_, ?_⟩
  · exact
      .cons (reads_field (decodes_container _)) <|
      .cons (reads_field (decodes_string _)) <|
      .cons (reads_field (decodes_variant (lookup_kind _))) <|
      .cons (reads_field (decodes_bool _)) <|
      .cons (reads_field (decodes_variant (lookup_visibility _))) <|
      .cons (reads_field (decodes_option visibility_ne_null fun _ => decodes_variant (lookup_visibility _))) <|
      .cons (reads_field (decodes_list fun parameter _ => decodes_parameter parameter)) <|
      .cons (reads_field (decodes_type _)) <|
      .cons (reads_field (decodes_option string_ne_null decodes_string)) <|
      .cons (reads_field (decodes_option string_ne_null decodes_string)) <|
      .cons (reads_field (decodes_bool _)) <|
      .cons (reads_field (decodes_bool _)) <|
      .cons (reads_field (decodes_option location_ne_null decodes_location)) .nil
  · intro seen covered
    obtain ⟨container, name, kind, isStatic, visibility, accessorVisibility, params, ret,
        nativeName, thisName, generic, generated, location⟩ :
        seen "container" = true ∧ seen "name" = true ∧ seen "kind" = true ∧
        (seen "static" = true ∨ decl.isStatic = false) ∧
        (seen "visibility" = true ∨ decl.visibility = .hidden) ∧
        (seen "accessor_visibility" = true ∨ decl.accessorVisibility = none) ∧
        (seen "params" = true ∨ decl.params = []) ∧
        (seen "ret" = true ∨ decl.ret = .unit) ∧
        (seen "native_name" = true ∨ decl.nativeName = none) ∧
        (seen "this_name" = true ∨ decl.thisName = none) ∧
        (seen "generic" = true ∨ decl.generic = false) ∧
        (seen "generated" = true ∨ decl.generated = true) ∧
        (seen "location" = true ∨ decl.location = none) := by
      simpa [ObjectKind.defaults, visibilityWord_eq_private_iff, toJson_eq_unit_iff,
        option_eq_null_iff visibility_ne_null, option_eq_null_iff string_ne_null,
        option_eq_null_iff location_ne_null] using covered
    simp [declarationRecord, declarationDraft, need_taken container, need_taken name,
      need_taken kind, getD_taken isStatic, getD_taken visibility, getD_taken accessorVisibility,
      getD_taken params, getD_taken ret, getD_taken nativeName, getD_taken thisName,
      getD_taken generic, getD_taken generated, getD_taken location, bind, Except.bind, pure,
      Except.pure]

private theorem decodes_set (set : DeclarationSet) : Decodes .set setRecord.decode set.toJson set := by
  refine decodes_record (fun seen => taken seen "declarations" set.declarations)
    ⟨rfl, by simp, rfl, ?_, ?_⟩
  · exact .cons (reads_field (decodes_list fun decl _ => decodes_declaration decl)) .nil
  · intro seen covered
    have declarations : seen "declarations" = true := by
      simpa [ObjectKind.defaults] using covered
    simp [setRecord, need_taken declarations, bind, Except.bind, pure, Except.pure]

private theorem itemsFit_map {α : Type} {encode : α → Value} {data : List α}
    (each : ∀ x ∈ data, Fits (encode x)) : ItemsFit (data.map encode) := by
  induction data with
  | nil => trivial
  | cons x data ih =>
    obtain ⟨first, others⟩ := List.forall_mem_cons.mp each
    exact ⟨first, ih others⟩

private theorem fits_option {α : Type} {encode : α → Value} (each : ∀ x, Fits (encode x))
    (datum : Option α) : Fits (.option encode datum) := by
  cases datum with
  | none => trivial
  | some x => exact each x

private theorem fits_string (text : String) : Fits (.string text) := trivial

private theorem fits_u32 (number : UInt32) : Fits (.whole number.toNat) :=
  Nat.lt_trans number.toNat_lt (by decide)

private theorem fits_type (type : TypeRef) : Fits type.toJson := by
  rw [toJson_type]
  have fields := plain_fieldsOf type
  exact ⟨trivial, fieldsFit_iff.mpr fun entry member => fits_plain (fields entry member)⟩

private theorem fits_location (location : SourceLocation) : Fits location.toJson :=
  ⟨trivial, fits_u32 location.line, fits_u32 location.column, trivial⟩

private theorem fits_container (container : Container) : Fits container.toJson :=
  ⟨trivial, trivial, fits_option fits_string _, trivial, trivial, trivial,
    fits_option fits_location _, trivial⟩

private theorem fits_parameter (parameter : Parameter) : Fits parameter.toJson :=
  ⟨trivial, fits_type parameter.type, trivial, trivial⟩

private theorem fits_declaration (decl : Declaration) : Fits decl.toJson :=
  ⟨fits_container decl.container, trivial, trivial, trivial, trivial,
    fits_option (fun _ => fits_string _) _,
    itemsFit_map fun parameter _ => fits_parameter parameter, fits_type decl.ret,
    fits_option fits_string _, fits_option fits_string _, trivial, trivial,
    fits_option fits_location _, trivial⟩

/-- Numbers of lines and columns are the only ones in a set, and short. -/
theorem fits_set (set : DeclarationSet) : Fits set.toJson :=
  ⟨itemsFit_map fun decl _ => fits_declaration decl, trivial⟩

/-- A set is read from its own text. -/
theorem ofText_render (set : DeclarationSet) : DeclarationSet.ofText set.render = .ok set := by
  rw [DeclarationSet.ofText, DeclarationSet.render,
    decode_laid setRecord.decode (fits_set set) (laid_render set.toJson)]
  exact decodes_set set _ _ (restated_refl set.toJson .set)

/-- A set is read from every text of every document that restates its document. -/
theorem ofText_restated {set : DeclarationSet} {document : Value} {text : String}
    (restated : Restated .set set.toJson document) (laid : Laid (tokens document) text.toList) :
    DeclarationSet.ofText text = .ok set := by
  have fits := fits_restated set.toJson restated (fits_set set)
  rw [DeclarationSet.ofText, decode_laid setRecord.decode fits laid]
  exact decodes_set set _ _ restated

/-- A set with one method that has a value. -/
def pointerSet : DeclarationSet where
  declarations := [
    { container := { path := "c::C", name := "C" }, name := "f", kind := .method,
      ret := .pointer "u8" true }]

/-- Its document with every object the other way round, without defaults, and with two fields that
mean nothing. -/
def pointerDocument : Value :=
  .object [
    ("by", .string "hand"),
    ("declarations", .list [.object [
      ("note", .null),
      ("ret", .object [
        ("mutable", .bool true), ("pointee", .string "u8"), ("kind", .string "pointer")]),
      ("kind", .string "method"),
      ("name", .string "f"),
      ("container", .object [("name", .string "C"), ("path", .string "c::C")])]])]

private theorem restated_pointerDocument : Restated .set pointerSet.toJson pointerDocument := by
  refine @Restated.object _ _ [("declarations", _)] [("by", .string "hand")] _
    (.keep (.list (.cons ?declaration .nil)) .nil) ?foreign (List.reverse_perm [_, _])
  case foreign => simp [Foreign, Plain.string]
  case declaration =>
    refine @Restated.object _ _ [("container", _), ("name", _), ("kind", _), ("ret", _)]
      [("note", .null)] _ ?known ?foreign (List.reverse_perm [_, _, _, _, _])
    case foreign => simp [Foreign, Plain.null]
    case known =>
      refine .keep ?container <| .keep (.string _) <| .keep (.string _) <| .leave ?_ <| .leave ?_ <|
        .leave ?_ <| .leave ?_ <| .keep ?ret <| .leave ?_ <| .leave ?_ <| .leave ?_ <| .leave ?_ <|
        .leave ?_ .nil
      case container =>
        refine @Restated.object _ _ [("path", _), ("name", _)] [] _ ?_ (by simp)
          (List.reverse_perm [_, _])
        refine .keep (.string _) <| .keep (.string _) <| .leave ?_ <| .leave ?_ <| .leave ?_ <|
          .leave ?_ <| .leave ?_ .nil
        all_goals simp [ObjectKind.part, ObjectKind.defaults, Value.option]
      case ret =>
        exact @Restated.object _ _ [("kind", _), ("pointee", _), ("mutable", _)] [] _
          (.keep (.string _) <| .keep (.string _) <| .keep (.bool _) .nil) (by simp)
          (List.reverse_perm [_, _, _])
      all_goals simp [ObjectKind.part, ObjectKind.defaults, Value.option, visibilityWord]

/-- A text of it with a tabulator in front of every token. -/
def pointerText : String :=
  String.ofList ((tokens pointerDocument).flatMap fun token => '\t' :: token.chars)

theorem ofText_restated_pointer :
    Restated .set pointerSet.toJson pointerDocument ∧
    Laid (tokens pointerDocument) pointerText.toList ∧
    DeclarationSet.ofText pointerText = .ok pointerSet := by
  have laid : Laid (tokens pointerDocument) pointerText.toList := by
    rw [pointerText, String.toList_ofList]
    exact laid_flatMap ['\t'] (by simp [isSpace]) (tokens pointerDocument)
  exact ⟨restated_pointerDocument, laid, ofText_restated restated_pointerDocument laid⟩

end NativeThunks.SetDocuments
