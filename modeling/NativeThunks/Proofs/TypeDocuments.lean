import NativeThunks.Proofs.RecordReading

/-! Types as documents. A type is read from every restatement of its document, wherever the kind
stands among the other fields. -/
namespace NativeThunks.TypeDocuments
open Json Restatements RecordReading Document

private theorem lookup_primitive (name : Primitive) : lookup primitives name.name = .ok name := by
  cases name <;> rfl

private theorem lookup_typeKind (kind : TypeKind) :
    lookup typeKinds (typeKindWord kind) = .ok kind := by
  cases kind <;> rfl

/-- The kind of a type. -/
def kindOf : TypeRef → TypeKind
  | .unit => .unit
  | .primitive _ => .primitive
  | .bool => .bool
  | .str _ => .str
  | .enum _ _ => .enum
  | .pointer _ _ => .pointer
  | .fnPointer _ => .fnPointer
  | .nativeObject _ _ => .nativeObject
  | .named _ => .named

/-- The fields of a type behind its kind. -/
def fieldsOf : TypeRef → List (String × Value)
  | .unit | .bool => []
  | .primitive name => [("name", .string name.name)]
  | .str owned => [("owned", .bool owned)]
  | .enum path repr => [("path", .string path), ("repr", .string repr.name)]
  | .pointer pointee mutable => [("pointee", .string pointee), ("mutable", .bool mutable)]
  | .nativeObject path nullable => [("path", .string path), ("nullable", .bool nullable)]
  | .fnPointer path | .named path => [("path", .string path)]

theorem toJson_type (type : TypeRef) :
    type.toJson = .object (("kind", .string (typeKindWord (kindOf type))) :: fieldsOf type) := by
  cases type <;> rfl

theorem toJson_eq_unit_iff (type : TypeRef) :
    type.toJson = .object [("kind", .string "unit")] ↔ type = .unit := by
  cases type <;> simp [toJson_type, kindOf, fieldsOf, typeKindWord]

private theorem kind_single (type : TypeRef) : "kind" ∉ (fieldsOf type).map Prod.fst := by
  cases type <;> simp [fieldsOf]

theorem plain_fieldsOf (type : TypeRef) : ∀ entry ∈ fieldsOf type, Plain entry.2 := by
  cases type <;> simp [fieldsOf, Plain.string, Plain.bool]

/-- The draft of a type of which some fields have been read. -/
@[simp] def typeDraft (type : TypeRef) (seen : String → Bool) : TypeDraft :=
  match type with
  | .unit | .bool => {}
  | .primitive name => { scalar := taken seen "name" name }
  | .str owned => { flag := taken seen "owned" owned }
  | .enum path repr => { path := taken seen "path" path, scalar := taken seen "repr" repr }
  | .pointer pointee mutable =>
    { path := taken seen "pointee" pointee, flag := taken seen "mutable" mutable }
  | .nativeObject path nullable =>
    { path := taken seen "path" path, flag := taken seen "nullable" nullable }
  | .fnPointer path | .named path => { path := taken seen "path" path }

@[simp] theorem finish_typeRecord (title : String) (fields : List (RecordField TypeDraft))
    (finish : TypeDraft → Except DataFault TypeRef) :
    (typeRecord title fields finish).finish = finish := rfl

private theorem each_type (type : TypeRef) {record : Record TypeDraft TypeRef}
    (found : typeRecord? (kindOf type) = .ok record) :
    List.Forall₂ (FieldReads .type (typeDraft type)) record.fields (fieldsOf type) := by
  cases type <;> cases found
  case primitive name => exact .cons (reads_field (decodes_variant (lookup_primitive _))) .nil
  case str owned => exact .cons (reads_field (decodes_bool _)) .nil
  case enum path repr =>
    exact .cons (reads_field (decodes_string _)) <|
      .cons (reads_field (decodes_variant (lookup_primitive _))) .nil
  case pointer pointee mutable =>
    exact .cons (reads_field (decodes_string _)) <|
      .cons (reads_field (decodes_bool _)) .nil
  case nativeObject path nullable =>
    exact .cons (reads_field (decodes_string _)) <|
      .cons (reads_field (decodes_bool _)) .nil
  case fnPointer path => exact .cons (reads_field (decodes_string _)) .nil
  case named path => exact .cons (reads_field (decodes_string _)) .nil

private theorem finish_type (type : TypeRef) {record : Record TypeDraft TypeRef}
    (found : typeRecord? (kindOf type) = .ok record) (seen : String → Bool)
    (covered : ∀ entry ∈ fieldsOf type, seen entry.1 = true ∨ entry ∈ ObjectKind.type.defaults) :
    record.finish (typeDraft type seen) = .ok type := by
  cases type <;> cases found
  case primitive name =>
    have known : seen "name" = true := by simpa [fieldsOf, ObjectKind.defaults] using covered
    simp [typeDraft, need_taken known, bind, Except.bind, pure, Except.pure]
  case str owned =>
    have flag : seen "owned" = true ∨ owned = false := by
      simpa [fieldsOf, ObjectKind.defaults] using covered
    simp [typeDraft, getD_taken flag]
  case enum path repr =>
    obtain ⟨known, layout⟩ : seen "path" = true ∧ seen "repr" = true := by
      simpa [fieldsOf, ObjectKind.defaults] using covered
    simp [typeDraft, need_taken known, need_taken layout, bind, Except.bind, pure,
      Except.pure]
  case pointer pointee mutable =>
    obtain ⟨known, flag⟩ : seen "pointee" = true ∧ (seen "mutable" = true ∨ mutable = false) := by
      simpa [fieldsOf, ObjectKind.defaults] using covered
    simp [typeDraft, need_taken known, getD_taken flag, bind, Except.bind, pure,
      Except.pure]
  case nativeObject path nullable =>
    obtain ⟨known, flag⟩ : seen "path" = true ∧ (seen "nullable" = true ∨ nullable = false) := by
      simpa [fieldsOf, ObjectKind.defaults] using covered
    simp [typeDraft, need_taken known, getD_taken flag, bind, Except.bind, pure,
      Except.pure]
  case fnPointer path =>
    have known : seen "path" = true := by simpa [fieldsOf, ObjectKind.defaults] using covered
    simp [typeDraft, need_taken known, bind, Except.bind, pure, Except.pure]
  case named path =>
    have known : seen "path" = true := by simpa [fieldsOf, ObjectKind.defaults] using covered
    simp [typeDraft, need_taken known, bind, Except.bind, pure, Except.pure]

/-- The fields behind the kind make the type. -/
theorem typeOfFields_covered (type : TypeRef) {entries : List (String × Value)}
    (covers : Covers .type (fieldsOf type) entries) :
    typeOfFields (kindOf type) (fieldsToNodes entries) = .ok type := by
  unfold typeOfFields
  cases found : typeRecord? (kindOf type) with
  | error known =>
    cases type <;> cases found <;> rfl
  | ok record =>
    have distinct : ((fieldsOf type).map Prod.fst).Nodup := by cases type <;> simp [fieldsOf]
    have lenient : record.strict = false := by cases type <;> cases found <;> rfl
    have start : record.start = typeDraft type fun _ => false := by
      cases type <;> cases found <;> rfl
    have reads : RecordReads .type record (fieldsOf type) (typeDraft type) type :=
      ⟨lenient, distinct, start, each_type type found, finish_type type found⟩
    exact ofFields_covered reads .buffered covers

private theorem fault_plain {value : Value} (plain : Plain value) (origin : Origin) :
    Origin.fault? origin value.toNode = none := by
  cases plain <;> cases origin <;> rfl

private theorem fieldsToNodes_append (front back : List (String × Value)) :
    fieldsToNodes (front ++ back) = fieldsToNodes front ++ fieldsToNodes back := by
  induction front with
  | nil => rfl
  | cons entry front ih => simp [fieldsToNodes, ih]

/-- Fields other than the kind are put aside. -/
theorem splitKind_others {origin : Origin} (entries : List (String × Value))
    (others : ∀ entry ∈ entries, entry.1 ≠ "kind" ∧ Plain entry.2) (rest : List (Quote × Node))
    (found : Option TypeKind) (aside : List (Quote × Node)) :
    splitKind origin (fieldsToNodes entries ++ rest) found aside =
      splitKind origin rest found ((fieldsToNodes entries).reverse ++ aside) := by
  induction entries generalizing aside with
  | nil => rfl
  | cons entry entries ih =>
    obtain ⟨key, value⟩ := entry
    obtain ⟨⟨other, plain⟩, others⟩ := List.forall_mem_cons.mp others
    have skipped := ih others ((.ok key, value.toNode) :: aside)
    simp [fieldsToNodes, splitKind, Quote.decode, other, fault_plain plain, stopAt, skipped, bind,
      Except.bind]

/-- The kind is found wherever it stands. -/
theorem splitKind_around {origin : Origin} (kind : TypeKind) (front back : List (String × Value))
    (others : ∀ entry ∈ front ++ back, entry.1 ≠ "kind" ∧ Plain entry.2) :
    splitKind origin
        (fieldsToNodes (front ++ ("kind", .string (typeKindWord kind)) :: back)) none [] =
      .ok (some kind, fieldsToNodes (front ++ back)) := by
  have before := fun entry member => others entry (List.mem_append_left back member)
  have behind := fun entry member => others entry (List.mem_append_right front member)
  have ends := @splitKind_others origin back behind [] (some kind) (fieldsToNodes front).reverse
  rw [List.append_nil] at ends
  rw [fieldsToNodes_append, splitKind_others front before]
  simp [fieldsToNodes, fieldsToNodes_append, splitKind, Quote.decode, readTypeKind, Value.toNode,
    lookup_typeKind, ends, bind, Except.bind]

/-- A type is read from every restatement of its document. -/
theorem decodes_type (type : TypeRef) : Decodes .type Document.type type.toJson type := by
  intro origin variant restated
  rw [toJson_type] at restated
  cases variant with
  | object entries =>
    have single := kind_single type
    have distinct : ((fieldsOf type).map Prod.fst).Nodup := by cases type <;> simp [fieldsOf]
    have covers := covers_of_restated
      (by simpa only [List.map_cons] using List.nodup_cons.mpr ⟨single, distinct⟩) restated
    obtain ⟨front, variant, back, rfl⟩ := covers.present (by simp [ObjectKind.defaults])
    have itself := covers.itself single
    cases itself
    have rest := covers.others single
    have others : ∀ entry ∈ front ++ back, entry.1 ≠ "kind" ∧ Plain entry.2 := by
      intro entry member
      exact ⟨covers.apart List.mem_cons_self entry member, rest.plain (plain_fieldsOf type) entry member⟩
    simp [Document.type, Value.toNode, splitKind_around _ front back others, ObjectStop.lastKey?,
      ObjectStop.decoding, stopAt, typeOfFields_covered type rest, bind, Except.bind]
  | _ => cases restated

end NativeThunks.TypeDocuments
