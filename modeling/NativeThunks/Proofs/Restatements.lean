import NativeThunks.Proofs.JsonTexts
import Mathlib.Data.List.Pairwise

/-! Documents that mean the same. A restatement of a document may order the fields of its objects
anew, leave out fields that have their default value, and add fields that the objects do not
know. -/
namespace NativeThunks.Restatements
open Json JsonTexts

/-- The kinds of objects in the document of a set. -/
inductive ObjectKind where
  | set | declaration | container | parameter | location | type

namespace ObjectKind

/-- The fields that may be left out, with the values that stand for them then. -/
def defaults : ObjectKind → List (String × Value)
  | .set => []
  | .declaration => [
      ("static", .bool false), ("visibility", .string "private"), ("accessor_visibility", .null),
      ("params", .list []), ("ret", .object [("kind", .string "unit")]), ("native_name", .null),
      ("this_name", .null), ("generic", .bool false), ("generated", .bool true),
      ("location", .null)]
  | .container => [
      ("native_name", .null), ("generic", .bool false), ("nested", .bool false),
      ("generated", .bool true), ("location", .null)]
  | .parameter => [("mode", .string "value")]
  | .location => [("column", .whole 0)]
  | .type => [("owned", .bool false), ("mutable", .bool false), ("nullable", .bool false)]

/-- The kind of the objects in a field. -/
def part : ObjectKind → String → ObjectKind
  | .set, "declarations" => .declaration
  | .declaration, "container" => .container
  | .declaration, "params" => .parameter
  | .declaration, "ret" => .type
  | .parameter, "ty" => .type
  | .declaration, "location" | .container, "location" => .location
  | kind, _ => kind

end ObjectKind

/-- Values that fields of no object may have. -/
inductive Plain : Value → Prop where
  | null : Plain .null
  | bool (value : Bool) : Plain (.bool value)
  | string (text : String) : Plain (.string text)

/-- A field that an object with the given fields does not know. -/
def Foreign (fields : List (String × Value)) (entry : String × Value) : Prop :=
  entry.1 ∉ fields.map Prod.fst ∧ Plain entry.2

mutual

/-- The restatements of a value in a place for objects of one kind. -/
inductive Restated : ObjectKind → Value → Value → Prop where
  | null {kind : ObjectKind} : Restated kind .null .null
  | bool {kind : ObjectKind} (value : Bool) : Restated kind (.bool value) (.bool value)
  | whole {kind : ObjectKind} (value : Nat) : Restated kind (.whole value) (.whole value)
  | string {kind : ObjectKind} (text : String) : Restated kind (.string text) (.string text)
  | list {kind : ObjectKind} {items variants : List Value}
      (each : RestatedItems kind items variants) : Restated kind (.list items) (.list variants)
  | object {kind : ObjectKind} {fields kept added entries : List (String × Value)}
      (known : RestatedFields kind fields kept) (foreign : ∀ entry ∈ added, Foreign fields entry)
      (order : entries.Perm (kept ++ added)) : Restated kind (.object fields) (.object entries)

/-- The restatements of items. -/
inductive RestatedItems : ObjectKind → List Value → List Value → Prop where
  | nil {kind : ObjectKind} : RestatedItems kind [] []
  | cons {kind : ObjectKind} {item variant : Value} {items variants : List Value}
      (first : Restated kind item variant) (others : RestatedItems kind items variants) :
      RestatedItems kind (item :: items) (variant :: variants)

/-- The restatements of fields, without those that are left out. -/
inductive RestatedFields :
    ObjectKind → List (String × Value) → List (String × Value) → Prop where
  | nil {kind : ObjectKind} : RestatedFields kind [] []
  | keep {kind : ObjectKind} {key : String} {value variant : Value}
      {fields kept : List (String × Value)} (itself : Restated (kind.part key) value variant)
      (others : RestatedFields kind fields kept) :
      RestatedFields kind ((key, value) :: fields) ((key, variant) :: kept)
  | leave {kind : ObjectKind} {entry : String × Value} {fields kept : List (String × Value)}
      (standard : entry ∈ kind.defaults) (others : RestatedFields kind fields kept) :
      RestatedFields kind (entry :: fields) kept

end

mutual

theorem restated_refl (value : Value) (kind : ObjectKind) : Restated kind value value := by
  match value with
  | .null => exact .null
  | .bool value => exact .bool value
  | .whole value => exact .whole value
  | .string text => exact .string text
  | .list items => exact .list (restatedItems_refl items kind)
  | .object fields =>
    have none : ∀ entry ∈ ([] : List (String × Value)), Foreign fields entry := by simp
    exact .object (restatedFields_refl fields kind) none (by simp)

private theorem restatedItems_refl (items : List Value) (kind : ObjectKind) :
    RestatedItems kind items items := by
  match items with
  | [] => exact .nil
  | item :: items => exact .cons (restated_refl item kind) (restatedItems_refl items kind)

private theorem restatedFields_refl (fields : List (String × Value)) (kind : ObjectKind) :
    RestatedFields kind fields fields := by
  match fields with
  | [] => exact .nil
  | (key, value) :: fields =>
    exact .keep (restated_refl value (kind.part key)) (restatedFields_refl fields kind)

end

theorem fits_plain {value : Value} (plain : Plain value) : Fits value := by
  cases plain <;> trivial

theorem fieldsFit_iff {fields : List (String × Value)} :
    FieldsFit fields ↔ ∀ entry ∈ fields, Fits entry.2 := by
  induction fields with
  | nil => simp [FieldsFit]
  | cons entry fields ih => simp [FieldsFit, ih]

mutual

theorem fits_restated (value : Value) {kind : ObjectKind} {variant : Value}
    (restated : Restated kind value variant) (fits : Fits value) : Fits variant := by
  match value, restated with
  | _, .null | _, .bool _ | _, .string _ => trivial
  | _, .whole _ => exact fits
  | .list items, .list each => exact itemsFit_restated items each fits
  | .object fields, .object known foreign order =>
    have keptFit := fieldsFit_iff.mp (fieldsFit_restated fields known fits)
    apply fieldsFit_iff.mpr
    intro entry member
    rcases List.mem_append.mp (order.mem_iff.mp member) with kept | added
    · exact keptFit entry kept
    · exact fits_plain (foreign entry added).2

private theorem itemsFit_restated (items : List Value) {kind : ObjectKind} {variants : List Value}
    (restated : RestatedItems kind items variants) (fits : ItemsFit items) :
    ItemsFit variants := by
  match items, restated with
  | [], .nil => trivial
  | item :: items, .cons first others =>
    exact ⟨fits_restated item first fits.1, itemsFit_restated items others fits.2⟩

private theorem fieldsFit_restated (fields : List (String × Value)) {kind : ObjectKind}
    {kept : List (String × Value)} (restated : RestatedFields kind fields kept)
    (fits : FieldsFit fields) : FieldsFit kept := by
  match fields, restated with
  | [], .nil => trivial
  | (_, value) :: fields, .keep itself others =>
    exact ⟨fits_restated value itself fits.1, fieldsFit_restated fields others fits.2⟩
  | _ :: fields, .leave _ others => exact fieldsFit_restated fields others fits.2

end

/-- The entry of a restated object for one of its fields. -/
def Restates (kind : ObjectKind) (fields : List (String × Value)) (entry : String × Value) : Prop :=
  ∃ value, (entry.1, value) ∈ fields ∧ Restated (kind.part entry.1) value entry.2

/-- Entries that stand for fields, in any order: no field has two of them, and one that has none
has its default. -/
structure Covers (kind : ObjectKind) (fields entries : List (String × Value)) : Prop where
  each : ∀ entry ∈ entries, Restates kind fields entry ∨ Foreign fields entry
  once : entries.Pairwise fun a b => a.1 = b.1 → a.1 ∉ fields.map Prod.fst
  left : ∀ entry ∈ fields, entry.1 ∈ entries.map Prod.fst ∨ entry ∈ kind.defaults

private theorem restates_of_kept {kind : ObjectKind} (fields : List (String × Value))
    {kept : List (String × Value)} (known : RestatedFields kind fields kept) :
    ∀ entry ∈ kept, Restates kind fields entry := by
  match fields, known with
  | [], .nil => simp
  | (key, value) :: fields, .keep itself others =>
    rintro entry (_ | ⟨_, member⟩)
    · exact ⟨value, List.mem_cons_self, itself⟩
    · obtain ⟨original, found, restated⟩ := restates_of_kept fields others entry member
      exact ⟨original, List.mem_cons_of_mem _ found, restated⟩
  | first :: fields, .leave _ others =>
    intro entry member
    obtain ⟨original, found, restated⟩ := restates_of_kept fields others entry member
    exact ⟨original, List.mem_cons_of_mem _ found, restated⟩

private theorem kept_sublist {kind : ObjectKind} (fields : List (String × Value))
    {kept : List (String × Value)} (known : RestatedFields kind fields kept) :
    (kept.map Prod.fst).Sublist (fields.map Prod.fst) := by
  match fields, known with
  | [], .nil => exact .slnil
  | _ :: fields, .keep _ others => exact (kept_sublist fields others).cons_cons _
  | _ :: fields, .leave _ others => exact (kept_sublist fields others).cons _

private theorem kept_or_standard {kind : ObjectKind} (fields : List (String × Value))
    {kept : List (String × Value)} (known : RestatedFields kind fields kept) :
    ∀ entry ∈ fields, entry.1 ∈ kept.map Prod.fst ∨ entry ∈ kind.defaults := by
  match fields, known with
  | [], .nil => simp
  | _ :: fields, .keep _ others =>
    rintro entry (_ | ⟨_, member⟩)
    · exact .inl List.mem_cons_self
    · exact (kept_or_standard fields others entry member).imp_left (List.mem_cons_of_mem _)
  | _ :: fields, .leave standard others =>
    rintro entry (_ | ⟨_, member⟩)
    · exact .inr standard
    · exact kept_or_standard fields others entry member

variable {kind : ObjectKind} {fields entries : List (String × Value)}

/-- A restated object covers the fields of the original, if they have distinct names. -/
theorem covers_of_restated (distinct : (fields.map Prod.fst).Nodup)
    (restated : Restated kind (.object fields) (.object entries)) : Covers kind fields entries := by
  cases restated with
  | @object _ _ kept added _ known foreign order =>
    constructor
    case each =>
      intro entry member
      rcases List.mem_append.mp (order.mem_iff.mp member) with itself | other
      · exact .inl (restates_of_kept fields known entry itself)
      · exact .inr (foreign entry other)
    case once =>
      have keysOnce := List.pairwise_map.mp (distinct.sublist (kept_sublist fields known))
      refine (order.pairwise_iff fun {a b} once same => same ▸ once same.symm).mpr
        (List.pairwise_append.mpr ⟨?_, ?_, ?_⟩)
      · exact keysOnce.imp fun different same => absurd same different
      · exact List.pairwise_of_forall_mem_list fun a member _ _ _ => (foreign a member).1
      · intro a _ b member same
        exact same ▸ (foreign b member).1
    case left =>
      intro entry member
      apply (kept_or_standard fields known entry member).imp_left
      intro key
      obtain ⟨kept, found, same⟩ := List.mem_map.mp key
      exact List.mem_map.mpr ⟨kept, order.mem_iff.mpr (List.mem_append_left _ found), same⟩

/-- What stands for a field is known to the object. -/
theorem Restates.known {entry : String × Value} (restates : Restates kind fields entry) :
    entry.1 ∈ fields.map Prod.fst := by
  obtain ⟨value, found, _⟩ := restates
  exact List.mem_map.mpr ⟨_, found, rfl⟩

private theorem plain_of_restated {value variant : Value} (restated : Restated kind value variant)
    (plain : Plain value) : Plain variant := by
  cases plain <;> cases restated <;> constructor

/-- Entries for plain fields are plain. -/
theorem Covers.plain (covers : Covers kind fields entries)
    (plain : ∀ entry ∈ fields, Plain entry.2) : ∀ entry ∈ entries, Plain entry.2 := by
  intro entry member
  rcases covers.each entry member with ⟨value, original, restated⟩ | foreign
  · exact plain_of_restated restated (plain _ original)
  · exact foreign.2

section
variable {key : String} {value variant : Value} {front back : List (String × Value)}

/-- A field that may not be left out has an entry. -/
theorem Covers.present (covers : Covers kind ((key, value) :: fields) entries)
    (required : (key, value) ∉ kind.defaults) :
    ∃ front variant back, entries = front ++ (key, variant) :: back := by
  have known := (covers.left _ List.mem_cons_self).resolve_right required
  obtain ⟨⟨name, variant⟩, member, same⟩ := List.mem_map.mp known
  obtain rfl : name = key := same
  obtain ⟨front, back, rfl⟩ := List.append_of_mem member
  exact ⟨front, variant, back, rfl⟩

/-- The entry restates the field. -/
theorem Covers.itself
    (covers : Covers kind ((key, value) :: fields) (front ++ (key, variant) :: back))
    (single : key ∉ fields.map Prod.fst) : Restated (kind.part key) value variant := by
  have member : (key, variant) ∈ front ++ (key, variant) :: back :=
    List.mem_append_right _ List.mem_cons_self
  rcases covers.each _ member with ⟨original, found, restated⟩ | foreign
  · rcases List.mem_cons.mp found with same | later
    · exact (Prod.mk.inj same).2 ▸ restated
    · exact absurd (List.mem_map.mpr ⟨_, later, rfl⟩) single
  · exact absurd List.mem_cons_self foreign.1

/-- No other entry has the field's name. -/
theorem Covers.apart (covers : Covers kind fields (front ++ (key, variant) :: back))
    (known : key ∈ fields.map Prod.fst) : ∀ entry ∈ front ++ back, entry.1 ≠ key := by
  obtain ⟨_, later, across⟩ := List.pairwise_append.mp covers.once
  rintro entry member rfl
  rcases List.mem_append.mp member with before | behind
  · exact across entry before _ List.mem_cons_self rfl known
  · exact (List.pairwise_cons.mp later).1 entry behind rfl known

/-- The other entries cover the other fields. -/
theorem Covers.others
    (covers : Covers kind ((key, value) :: fields) (front ++ (key, variant) :: back))
    (single : key ∉ fields.map Prod.fst) : Covers kind fields (front ++ back) := by
  have apart := covers.apart List.mem_cons_self
  have part : (front ++ back).Sublist (front ++ (key, variant) :: back) :=
    (List.sublist_cons_self _ back).append_left front
  constructor
  case each =>
    intro entry member
    rcases covers.each entry (part.mem member) with ⟨original, found, restated⟩ | foreign
    · have later := (List.mem_cons.mp found).resolve_left fun same =>
        apart entry member (Prod.mk.inj same).1
      exact .inl ⟨original, later, restated⟩
    · exact .inr ⟨fun known => foreign.1 (List.mem_cons_of_mem _ known), foreign.2⟩
  case once =>
    exact (covers.once.sublist part).imp fun once same known =>
      once same (List.mem_cons_of_mem _ known)
  case left =>
    intro entry member
    apply (covers.left entry (List.mem_cons_of_mem _ member)).imp_left
    intro covered
    have other : entry.1 ≠ key := by
      rintro rfl
      exact single (List.mem_map.mpr ⟨entry, member, rfl⟩)
    simpa [other] using covered

end

end NativeThunks.Restatements
