import Mathlib.Data.List.Nodup
import NativeThunks.Proofs.CaseChange
import NativeThunks.Proofs.ReceiverBinding

/-! Which names are the same identifier. Names are compared as texts, but the language drops a raw
mark, blanks and comments. A text in the one spelling that escaping gives to a bare word is told apart
from other such texts by its identifier, so names that are all in this spelling are distinct as
identifiers as soon as they are distinct as texts. -/
namespace NativeThunks.Identifiers
open CaseChange Grammar LexedNames Naming ReceiverBinding

variable {text first second : String} {names : List String}

/-- A word with nothing beside it and no raw mark, as far as can be seen without the lexer. -/
def Bare (text : String) : Prop := ∀ c ∈ text.toList, isStray c = false

instance (text : String) : Decidable (Bare text) :=
  List.decidableBAll (fun c => isStray c = false) text.toList

/-- The one spelling that the escape of reserved words gives to a word. -/
def Canonical (text : String) : Prop := Bare (stem text) ∧ escapeReserved (stem text) = text

instance (text : String) : Decidable (Canonical text) :=
  inferInstanceAs (Decidable (Bare (stem text) ∧ escapeReserved (stem text) = text))

/-- Names that stand for different identifiers. -/
def Distinct (names : List String) : Prop := (names.map identifierOf?).Nodup

instance (names : List String) : Decidable (Distinct names) :=
  inferInstanceAs (Decidable (names.map identifierOf?).Nodup)

/-- No name in another than the canonical spelling stands for the identifier of a further name. -/
def StraysApart (names : List String) : Prop :=
  ∀ first ∈ names, ¬Canonical first →
    ∀ second ∈ names, second ≠ first → identifierOf? first ≠ identifierOf? second

private theorem bare_iff (text : String) : Bare text ↔ ∀ c, isStray c = true → c ∉ text.toList := by
  apply forall_congr'
  intro c
  constructor
  · intro bare stray member
    exact absurd stray (Bool.eq_false_iff.mp (bare member))
  · intro absent member
    exact Bool.eq_false_iff.mpr fun stray => absent stray member

@[simp] theorem bare_append (first second : String) :
    Bare (first ++ second) ↔ Bare first ∧ Bare second := by
  simp [Bare, or_imp, forall_and]

/-- A name is bare in any case. -/
@[simp] theorem bare_snakeCase (name : String) : Bare (snakeCase name) ↔ Bare name := by
  rw [bare_iff, bare_iff]
  exact forall₂_congr fun c stray => not_congr (stray_mem_snakeCase stray)

theorem Bare.notMem (bare : Bare text) {c : Char} (stray : isStray c = true) : c ∉ text.toList :=
  (bare_iff text).mp bare c stray

theorem Bare.unblank (bare : Bare text) : ∀ c ∈ text.toList, isBlank c = false := by
  intro c member
  refine Bool.eq_false_iff.mpr fun blank => bare.notMem (c := c) ?_ member
  simp [isStray, blank]

theorem stem_of_unraw (unraw : ¬['r', '#'] <+: text.toList) : stem text = text := by
  unfold stem
  split
  · rename_i rest raw
    exact absurd ⟨rest, raw.symm⟩ unraw
  · rfl

theorem stem_of_bare (bare : Bare text) : stem text = text :=
  stem_of_unraw fun raw => bare.notMem (c := '#') rfl (raw.subset (by decide))

theorem stem_raw (text : String) : stem ("r#" ++ text) = text := by
  simp [stem]

/-- A word that is a whole text is this text. -/
theorem eq_of_takeAnyWord {word : String} (taken : takeAnyWord? text.toList = some (word, [])) :
    word = text := by
  apply String.toList_inj.mp
  rcases takeAnyWord_cases taken with ⟨rest, word, raw, found, rfl⟩ | ⟨word, found, rfl⟩
  · obtain ⟨rfl, _⟩ := takeWord_split found
    simp [raw]
  · obtain ⟨whole, _⟩ := takeWord_split found
    simp [whole]

/-- What is accepted and has no blank, no slash and no byte order mark before it is read as one word, raw
or not. -/
theorem word_of_unblank (accepted : isIdentifier text = true)
    (unblank : ∀ c ∈ text.toList, isBlank c = false) (plain : '/' ∉ text.toList)
    (unmarked : dropByteOrderMark text.toList = text.toList) :
    takeAnyWord? text.toList = some (text, []) ∧ Tree.ofText? text = some [.word text] := by
  obtain ⟨word, _, lexed⟩ := trees_of_isIdentifier accepted
  obtain ⟨before, letters, after, split, taken, blank⟩ := spelled_of_trees lexed plain
  rw [unmarked] at split
  have nothing : before ++ after = [] := List.eq_nil_iff_forall_not_mem.mpr fun c member => by
    refine absurd (blank c member) (Bool.eq_false_iff.mp (unblank c (split ▸ ?_)))
    simp only [List.mem_append] at member ⊢
    exact member.imp_right .inr
  obtain ⟨rfl, rfl⟩ := List.append_eq_nil_iff.mp nothing
  rw [List.nil_append, List.append_nil] at split
  rw [List.append_nil, ← split] at taken
  obtain rfl := eq_of_takeAnyWord taken
  exact ⟨taken, lexed⟩

/-- In particular where only the mark of a raw word may be stray. -/
theorem word_of_compact (accepted : isIdentifier text = true)
    (compact : ∀ c ∈ text.toList, c ≠ '#' → isStray c = false) :
    takeAnyWord? text.toList = some (text, []) ∧ Tree.ofText? text = some [.word text] := by
  have absent {c : Char} (other : c ≠ '#') (stray : isStray c = true) : c ∉ text.toList :=
    fun member => absurd stray (Bool.eq_false_iff.mp (compact c member other))
  refine word_of_unblank accepted (fun c member => ?_) (absent (by decide) (by decide)) ?_
  · refine Bool.eq_false_iff.mpr fun blank => absent ?_ (by simp [isStray, blank]) member
    rintro rfl
    exact absurd blank (by decide)
  · rcases dropByteOrderMark_cases text.toList with same | marked
    · exact same.symm
    · exact absurd (marked ▸ List.mem_cons_self) (absent (c := '\ufeff') (by decide) (by decide))

theorem identifierOf_of_trees (lexed : Tree.ofText? text = some [.word text]) :
    identifierOf? text = some (stem text) := by
  rw [identifierOf?, lexed]

theorem stem_escapeReserved (unraw : stem text = text) :
    stem (escapeReserved text) = if text ∈ pathWords then text ++ "_" else text := by
  unfold escapeReserved
  split
  · rename_i path
    have kept : ∀ word ∈ pathWords, stem (word ++ "_") = word ++ "_" := by decide +kernel
    exact kept text path
  · split
    · exact stem_raw text
    · exact unraw

/-- A name is escaped in the same way as its word. -/
theorem escapeReserved_stem (unraw : stem text = text) :
    escapeReserved (stem (escapeReserved text)) = escapeReserved text := by
  rw [stem_escapeReserved unraw]
  split
  · rename_i path
    have lengthened : ∀ word ∈ pathWords, escapeReserved (word ++ "_") = escapeReserved word := by
      decide +kernel
    exact lengthened text path
  · rfl

/-- The escape of a bare word is the canonical spelling of what it stands for. -/
theorem canonical_escapeReserved (bare : Bare text) : Canonical (escapeReserved text) := by
  refine ⟨?_, escapeReserved_stem (stem_of_bare bare)⟩
  rw [stem_escapeReserved (stem_of_bare bare)]
  split
  · exact (bare_append _ _).mpr ⟨bare, by decide⟩
  · exact bare

/-- Only a raw mark is stray in a canonical name. -/
theorem Canonical.compact (canonical : Canonical text) :
    ∀ c ∈ text.toList, c ≠ '#' → isStray c = false := by
  have letters : ∀ c ∈ (escapeReserved (stem text)).toList, c ≠ '#' → isStray c = false := by
    intro c member notHash
    unfold escapeReserved at member
    split at member
    · exact (bare_append _ _).mpr ⟨canonical.1, by decide⟩ c member
    · split at member
      · rcases List.mem_append.mp (String.toList_append ▸ member) with mark | letter
        · simp only [String.reduceToList, List.mem_cons, List.not_mem_nil, or_false] at mark
          rcases mark with rfl | rfl
          · decide
          · exact absurd rfl notHash
        · exact canonical.1 c letter
      · exact canonical.1 c member
  rwa [canonical.2] at letters

/-- A canonical name that is accepted stands for its word without the raw mark. -/
theorem Canonical.identifier (canonical : Canonical text) (accepted : isIdentifier text = true) :
    identifierOf? text = some (stem text) :=
  identifierOf_of_trees (word_of_compact accepted canonical.compact).2

/-- Canonical names of one identifier are the same text. -/
theorem Canonical.eq (one : Canonical first) (other : Canonical second)
    (acceptedFirst : isIdentifier first = true) (acceptedSecond : isIdentifier second = true)
    (same : identifierOf? first = identifierOf? second) : first = second := by
  rw [one.identifier acceptedFirst, other.identifier acceptedSecond] at same
  rw [← one.2, ← other.2, Option.some.inj same]

/-- Names that are distinct as texts are distinct as identifiers exactly when those that are not in
canonical spelling keep apart from the others. -/
theorem distinct_iff (texts : names.Nodup) (accepted : ∀ name ∈ names, isIdentifier name = true) :
    Distinct names ↔ StraysApart names := by
  constructor
  · intro distinct first firstMember _ second secondMember different same
    exact different (List.inj_on_of_nodup_map distinct secondMember firstMember same.symm)
  · intro apart
    apply texts.map_on
    intro first firstMember second secondMember same
    by_cases one : Canonical first
    · by_cases other : Canonical second
      · exact one.eq other (accepted _ firstMember) (accepted _ secondMember) same
      · by_contra different
        exact apart second secondMember other first firstMember different same.symm
    · by_contra different
      exact apart first firstMember one second secondMember (Ne.symm different) same

end NativeThunks.Identifiers
