import NativeThunks.Declaration.Document
import NativeThunks.Proofs.JsonReading
import NativeThunks.Proofs.Restatements

/-! Typed reading of restatements. A record takes its fields in any order, goes by the defaults for
those that are left out, and skips the fields that it does not know. -/
namespace NativeThunks.RecordReading
open Json Restatements

/-- A decoder reads every restatement of a value as the same datum, wherever it comes from. -/
def Decodes {α : Type} (kind : ObjectKind) (decode : Decoder α) (value : Value) (datum : α) :
    Prop :=
  ∀ origin variant, Restated kind value variant → decode origin variant.toNode = .ok datum

variable {σ α β : Type} {kind : ObjectKind}

theorem decodes_string (text : String) : Decodes kind Decoder.string (.string text) text := by
  rintro origin variant ⟨⟩
  rfl

theorem decodes_bool (value : Bool) : Decodes kind Decoder.bool (.bool value) value := by
  rintro origin variant ⟨⟩
  rfl

theorem decodes_u32 (number : UInt32) :
    Decodes kind Decoder.u32 (.whole number.toNat) number := by
  rintro origin variant ⟨⟩
  have below := number.toNat_lt
  have within : (0 : Int) ≤ number.toNat ∧ (number.toNat : Int) ≤ 4294967295 := by omega
  simp [Decoder.u32, Decoder.whole, Value.toNode, within, bind, Except.bind, pure, Except.pure]

theorem decodes_variant {variants : List (String × α)} {word : String} {datum : α}
    (found : lookup variants word = .ok datum) :
    Decodes kind (Decoder.variant variants) (.string word) datum := by
  rintro origin variant ⟨⟩
  cases origin <;> exact found

private theorem null_of_restated {value : Value} (restated : Restated kind value .null) :
    value = .null := by
  cases restated
  rfl

/-- Null stands for a datum that is absent, so no other may be written as null. -/
theorem decodes_option {decode : Decoder α} {encode : α → Value} {datum : Option α}
    (solid : ∀ x, encode x ≠ .null) (each : ∀ x, Decodes kind decode (encode x) x) :
    Decodes kind (Decoder.option decode) (.option encode datum) datum := by
  intro origin variant restated
  cases datum with
  | none =>
    cases restated
    rfl
  | some x =>
    have read := each x origin variant restated
    cases variant with
    | null => exact absurd (null_of_restated restated) (solid x)
    | _ =>
      simp only [Value.toNode] at read
      simp [Decoder.option, Value.toNode, read, Except.map]

private theorem decodeItems_restated {decode : Decoder α} {encode : α → Value} (origin : Origin) :
    ∀ (data : List α) (variants : List Value), (∀ x ∈ data, Decodes kind decode (encode x) x) →
      RestatedItems kind (data.map encode) variants →
      decodeItems (decode origin) (itemsToNodes variants) = .ok data
  | [], _, _, .nil => rfl
  | x :: data, variant :: variants, each, .cons first others => by
    have read := each x List.mem_cons_self origin variant first
    have rest := decodeItems_restated origin data variants
      (fun y member => each y (List.mem_cons_of_mem _ member)) others
    simp [itemsToNodes, decodeItems, read, rest, bind, Except.bind, pure, Except.pure]

theorem decodes_list {decode : Decoder α} {encode : α → Value} {data : List α}
    (each : ∀ x ∈ data, Decodes kind decode (encode x) x) :
    Decodes kind (Decoder.list decode) (.list (data.map encode)) data := by
  intro origin variant restated
  cases restated with
  | list restatedItems =>
    have read := decodeItems_restated origin.inner data _ each restatedItems
    simp [Decoder.list, Value.toNode, read, ListStop.decoding, stopAt, bind, Except.bind, pure,
      Except.pure]

/-- The part of a draft for a field that may have been read. -/
def taken (seen : String → Bool) (key : String) (datum : β) : Option β :=
  if seen key then some datum else none

section
variable {seen : String → Bool} {key other : String} {datum : β}

@[simp] theorem taken_update_self :
    taken (Function.update seen key true) key datum = some datum := by
  simp [taken]

@[simp] theorem taken_update_of_ne (different : other ≠ key) :
    taken (Function.update seen key true) other datum = taken seen other datum := by
  simp [taken, different]

theorem need_taken (read : seen key = true) :
    Document.need key (taken seen key datum) = .ok datum := by
  simp [taken, read, Document.need]

theorem getD_taken {standard : β} (readOrStandard : seen key = true ∨ datum = standard) :
    (taken seen key datum).getD standard = datum := by
  rcases readOrStandard with read | rfl
  · simp [taken, read]
  · cases read : seen key <;> simp [taken, read]

end

/-- A field of a record is read from an entry's restatements. The drafts are those in which just
some fields have been read. -/
structure FieldReads (kind : ObjectKind) (draft : (String → Bool) → σ) (field : RecordField σ)
    (entry : String × Value) : Prop where
  name : field.name = entry.1
  isSet : ∀ seen, field.isSet (draft seen) = seen entry.1
  read : ∀ origin seen variant, Restated (kind.part entry.1) entry.2 variant →
    field.read origin variant.toNode (draft seen) = .ok (draft (Function.update seen entry.1 true))

/-- A record is read from the fields of an object. -/
structure RecordReads (kind : ObjectKind) (record : Record σ α) (fields : List (String × Value))
    (draft : (String → Bool) → σ) (datum : α) : Prop where
  lenient : record.strict = false
  distinct : (fields.map Prod.fst).Nodup
  start : record.start = draft fun _ => false
  each : List.Forall₂ (FieldReads kind draft) record.fields fields
  finish : ∀ seen, (∀ entry ∈ fields, seen entry.1 = true ∨ entry ∈ kind.defaults) →
    record.finish (draft seen) = .ok datum

/-- A field is read if its value is. That it has a place of its own in the drafts is left to simp. -/
theorem reads_field {draft : (String → Bool) → σ} {name : String} {required : Bool}
    {decode : Decoder β} {get : σ → Option β} {put : σ → β → σ} {value : Value} {datum : β}
    (decodes : Decodes (kind.part name) decode value datum)
    (gets : ∀ seen, get (draft seen) = taken seen name datum := by intro seen; rfl)
    (puts : ∀ seen, put (draft seen) datum = draft (Function.update seen name true) := by simp) :
    FieldReads kind draft (Document.field name required decode get put) (name, value) where
  name := rfl
  isSet seen := by
    simp only [Document.field, gets, taken]
    cases seen name <;> rfl
  read origin seen variant restated := by
    simp only [Document.field, decodes origin variant restated, Except.map, puts]

section
variable {record : Record σ α} {fields entries : List (String × Value)}
  {draft : (String → Bool) → σ} {datum : α}

private theorem find_field {known : List (RecordField σ)} (distinct : (fields.map Prod.fst).Nodup)
    (each : List.Forall₂ (FieldReads kind draft) known fields) {entry : String × Value}
    (member : entry ∈ fields) :
    ∃ field, known.find? (·.name == entry.1) = some field ∧ FieldReads kind draft field entry := by
  induction each with
  | nil => cases member
  | @cons field first known fields reads others ih =>
    obtain ⟨fresh, distinct⟩ := List.nodup_cons.mp distinct
    rcases List.mem_cons.mp member with rfl | member
    · exact ⟨field, by simp [reads.name], reads⟩
    · have other : first.1 ≠ entry.1 := by
        intro same
        exact fresh (List.mem_map.mpr ⟨entry, member, same.symm⟩)
      obtain ⟨found, search, reading⟩ := ih distinct member
      exact ⟨found, by simpa [List.find?_cons, reads.name, other] using search, reading⟩

private theorem find_none {known : List (RecordField σ)}
    (each : List.Forall₂ (FieldReads kind draft) known fields) {key : String}
    (foreign : key ∉ fields.map Prod.fst) : known.find? (·.name == key) = none := by
  induction each with
  | nil => rfl
  | @cons field first known fields reads others ih =>
    simp only [List.map_cons, List.mem_cons, not_or] at foreign
    have other : first.1 ≠ key := fun same => foreign.1 same.symm
    simpa [List.find?_cons, reads.name, other] using ih foreign.2

/-- One entry that stands for a field is read, once. -/
theorem decodeFields_known (reads : RecordReads kind record fields draft datum) {origin : Origin}
    {key : String} {variant : Value} {rest : List (Quote × Node)} {seen : String → Bool}
    (restates : Restates kind fields (key, variant)) (unseen : seen key = false) :
    record.decodeFields origin ((.ok key, variant.toNode) :: rest) (draft seen) =
      record.decodeFields origin rest (draft (Function.update seen key true)) := by
  obtain ⟨value, member, restated⟩ := restates
  obtain ⟨field, found, reading⟩ := find_field reads.distinct reads.each member
  have accepted : record.accept (.ok key) (draft seen) = .ok (some field) := by
    simp [Record.accept, Quote.decode, found, reading.isSet, unseen, bind, Except.bind, pure,
      Except.pure]
  simp [Record.decodeFields, accepted, reading.read origin seen variant restated, bind,
    Except.bind]

/-- One entry that the record does not know is skipped. -/
theorem decodeFields_foreign (reads : RecordReads kind record fields draft datum) {origin : Origin}
    {key : String} {variant : Value} {rest : List (Quote × Node)} {seen : String → Bool}
    (foreign : Foreign fields (key, variant)) :
    record.decodeFields origin ((.ok key, variant.toNode) :: rest) (draft seen) =
      record.decodeFields origin rest (draft seen) := by
  have accepted : record.accept (.ok key) (draft seen) = .ok none := by
    simp [Record.accept, Quote.decode, find_none reads.each foreign.1, reads.lenient, bind,
      Except.bind, pure, Except.pure]
  have skipped : variant.toNode.skipFault? = none := by
    cases foreign.2 <;> rfl
  simp [Record.decodeFields, accepted, skipped, stopAt, bind, Except.bind]

/-- Entries in any order are read, each known one once. Their fields have been read then. -/
theorem decodeFields_covered (reads : RecordReads kind record fields draft datum) (origin : Origin)
    (each : ∀ entry ∈ entries, Restates kind fields entry ∨ Foreign fields entry)
    (once : entries.Pairwise fun a b => a.1 = b.1 → a.1 ∉ fields.map Prod.fst)
    (seen : String → Bool)
    (unseen : ∀ entry ∈ entries, Restates kind fields entry → seen entry.1 = false) :
    ∃ after, record.decodeFields origin (fieldsToNodes entries) (draft seen) = .ok (draft after) ∧
      (∀ key, seen key = true → after key = true) ∧
      ∀ entry ∈ entries, Restates kind fields entry → after entry.1 = true := by
  induction entries generalizing seen with
  | nil => exact ⟨seen, rfl, fun _ read => read, by simp⟩
  | cons entry entries ih =>
    obtain ⟨key, variant⟩ := entry
    obtain ⟨alone, once⟩ := List.pairwise_cons.mp once
    have others := fun entry member => each entry (List.mem_cons_of_mem _ member)
    rcases each _ List.mem_cons_self with known | foreign
    · have apart : ∀ entry ∈ entries, Restates kind fields entry →
          Function.update seen key true entry.1 = false := by
        intro entry member restates
        have different : entry.1 ≠ key := fun same => alone entry member same.symm known.known
        rw [Function.update_of_ne different]
        exact unseen entry (List.mem_cons_of_mem _ member) restates
      obtain ⟨after, read, kept, found⟩ := ih others once _ apart
      have itself : after key = true := kept key (Function.update_self ..)
      refine ⟨after, ?_, fun other before => ?_, ?_⟩
      · rw [fieldsToNodes, decodeFields_known reads known (unseen _ List.mem_cons_self known)]
        exact read
      · by_cases same : other = key
        · exact same ▸ itself
        · exact kept other (by rwa [Function.update_of_ne same])
      · rintro entry (_ | ⟨_, member⟩) restates
        · exact itself
        · exact found entry member restates
    · obtain ⟨after, read, kept, found⟩ := ih others once seen
        fun entry member => unseen entry (List.mem_cons_of_mem _ member)
      refine ⟨after, ?_, kept, ?_⟩
      · rw [fieldsToNodes, decodeFields_foreign reads foreign]
        exact read
      · rintro entry (_ | ⟨_, member⟩) restates
        · exact absurd restates.known foreign.1
        · exact found entry member restates

/-- A record is read from everything that covers its fields. -/
theorem ofFields_covered (reads : RecordReads kind record fields draft datum) (origin : Origin)
    (covers : Covers kind fields entries) :
    record.ofFields origin (fieldsToNodes entries) .closed = .ok datum := by
  obtain ⟨after, read, _, found⟩ := decodeFields_covered reads origin covers.each covers.once
    (fun _ => false) fun _ _ _ => rfl
  have complete : record.finish (draft after) = .ok datum := by
    apply reads.finish after
    intro entry member
    apply (covers.left entry member).imp_left
    intro key
    obtain ⟨stands, present, same⟩ := List.mem_map.mp key
    have known : stands.1 ∈ fields.map Prod.fst := same ▸ List.mem_map.mpr ⟨entry, member, rfl⟩
    have restates := (covers.each stands present).resolve_right fun other => other.1 known
    exact same ▸ found stands present restates
  rw [← reads.start] at read
  simp [Record.ofFields, read, Record.complete, complete, ObjectStop.lastKey?,
    ObjectStop.decoding, stopAt, bind, Except.bind]

theorem decodes_record (draft : (String → Bool) → σ)
    (reads : RecordReads kind record fields draft datum) :
    Decodes kind record.decode (.object fields) datum := by
  intro origin variant restated
  cases variant with
  | object entries =>
    exact ofFields_covered reads origin.inner (covers_of_restated reads.distinct restated)
  | _ => cases restated

end

end NativeThunks.RecordReading
