import NativeThunks.Proofs.CaseChange

/-! What becomes of a name in snake case. Every character adds at most one underscore and then itself in
lower case; a hyphen or a dot adds the underscore alone. So nothing moves but case and underscores:
without its underscores the new name is the old one, letter by letter in lower case. The scan begins as
if an underscore had been written, which keeps a new one away from the start of the name. -/
namespace NativeThunks.SnakeCase
open CaseChange Naming Text

variable {c d : Char} {state : SnakeState} {text : List Char} {name : String}

/-- A hyphen or a dot, which separate the words of a name. -/
def isSeparator (c : Char) : Bool := c == '-' || c == '.'

/-- A letter of a name, by which is meant any character but the separators and the underscore. -/
def isLetter (c : Char) : Bool := !isSeparator c && c != '_'

/-- A character in lower case. Only uppercase characters have another form than their own. -/
def lowered (c : Char) : List Char := if isUppercase c then lowercase c else [c]

/-- The letters of a text in lower case. -/
def loweredLetters (text : List Char) : List Char := (text.filter isLetter).flatMap lowered

/-- The first character of a text that does not separate words. -/
def firstOfWords? (text : List Char) : Option Char := text.find? (!isSeparator ·)

/-- A separator and an underscore have no case. -/
theorem isLetter_of_isUppercase (upper : isUppercase c = true) : isLetter c = true := by
  have apart (mark : Char) (caseless : isUppercase mark = false) : c ≠ mark := by
    rintro rfl
    exact absurd upper (Bool.eq_false_iff.mp caseless)
  simp [isLetter, isSeparator, apart '-' (by decide +kernel), apart '.' (by decide +kernel),
    apart '_' (by decide +kernel)]

/-- The runs of lowercase characters begin behind the separators and the underscore. -/
private theorem runs_behind : ∀ run ∈ lowercaseRuns, '_'.toNat < run.target := by decide +kernel

/-- An uppercase character becomes letters only. -/
theorem isLetter_of_mem_lowercase (upper : isUppercase c = true) (member : d ∈ lowercase c) :
    isLetter d = true := by
  rcases mem_lowercase member with rfl | rfl | rfl | ⟨run, listed, applied⟩
  · exact isLetter_of_isUppercase upper
  · decide
  · decide
  · rcases apply_some applied with rfl | ⟨value, _⟩
    · decide
    · have behind := runs_behind run listed
      have apart (mark : Char) (small : mark.toNat ≤ '_'.toNat) : d ≠ mark := by
        rintro rfl
        omega
      simp [isLetter, isSeparator, apart '-' (by decide), apart '.' (by decide),
        apart '_' (Nat.le_refl _)]

private theorem isLetter_of_mem_lowered (letter : isLetter c = true) (member : d ∈ lowered c) :
    isLetter d = true := by
  unfold lowered at member
  split at member
  · rename_i upper
    exact isLetter_of_mem_lowercase upper member
  · exact List.mem_singleton.mp member ▸ letter

private theorem lowered_ne_nil (c : Char) : lowered c ≠ [] := by
  unfold lowered lowercase
  split
  · split
    · exact List.cons_ne_nil _ _
    · cases lowercaseRuns.findSome? (·.apply c.toNat) <;> exact List.cons_ne_nil _ _
  · exact List.cons_ne_nil _ _

/-- An underscore is no uppercase character. -/
@[simp] theorem lowered_underscore : lowered '_' = ['_'] := by decide +kernel

/-- What a character adds behind the underscore that may come first. -/
def written (c : Char) : List Char := if isSeparator c then [] else lowered c

/-- One character adds itself in lower case, with at most an underscore in front, and with none where one
would be redundant. -/
theorem snakeStep_written (state : SnakeState) (c : Char) : ∃ lead, (snakeStep state c).1 =
    lead ++ written c ∧ (lead = [] ∨ lead = ['_'] ∧ state.afterUnderscore = false) := by
  have separates : (c = '-' ∨ c = '.') ↔ isSeparator c = true := by simp [isSeparator]
  unfold snakeStep written lowered
  simp only [separates]
  cases isSeparator c with
  | true =>
    cases redundant : state.afterUnderscore with
    | true => exact ⟨[], by simp, .inl rfl⟩
    | false => exact ⟨['_'], by simp, .inr ⟨rfl, rfl⟩⟩
  | false =>
    cases isUppercase c with
    | false => exact ⟨[], by simp, .inl rfl⟩
    | true =>
      cases redundant : state.afterUnderscore with
      | true => exact ⟨[], by simp, .inl rfl⟩
      | false =>
        cases run : state.afterUpper with
        | true => exact ⟨[], by simp, .inl rfl⟩
        | false => exact ⟨['_'], by simp, .inr ⟨rfl, rfl⟩⟩

private theorem mem_snakeStep (member : d ∈ (snakeStep state c).1) : d = '_' ∨ d ∈ written c := by
  obtain ⟨lead, split, leads⟩ := snakeStep_written state c
  rw [split, List.mem_append] at member
  rcases leads with rfl | ⟨rfl, _⟩
  · exact .inr (member.resolve_left List.not_mem_nil)
  · exact member.imp_left List.mem_singleton.mp

private theorem mem_snakeChars (member : d ∈ snakeChars state text) :
    d = '_' ∨ ∃ c ∈ text, d ∈ written c := by
  induction text generalizing state with
  | nil => cases member
  | cons c rest ih =>
    rcases List.mem_append.mp member with here | later
    · exact (mem_snakeStep here).imp_right fun inside => ⟨c, List.mem_cons_self, inside⟩
    · obtain underscore | ⟨other, listed, inside⟩ := ih later
      · exact .inl underscore
      · exact .inr ⟨other, List.mem_cons_of_mem _ listed, inside⟩

/-- What is written is no separator. -/
theorem not_isSeparator_of_mem_written (member : d ∈ written c) : isSeparator d = false := by
  unfold written at member
  split at member
  · cases member
  · rename_i other
    rcases Bool.eq_false_or_eq_true (isLetter c) with letter | mark
    · have letters := isLetter_of_mem_lowered letter member
      simpa using (Bool.and_eq_true_iff.mp letters).1
    · obtain rfl : c = '_' := by simpa [isLetter, other] using mark
      rw [lowered_underscore] at member
      exact List.mem_singleton.mp member ▸ rfl

/-- Without underscores, the letters in lower case are left. -/
theorem filter_written (c : Char) :
    (written c).filter (· != '_') = if isLetter c then lowered c else [] := by
  unfold written
  split
  · rename_i separator
    simp [isLetter, separator]
  · rename_i other
    split
    · rename_i letter
      exact List.filter_eq_self.mpr fun d member =>
        (Bool.and_eq_true_iff.mp (isLetter_of_mem_lowered letter member)).2
    · rename_i mark
      obtain rfl : c = '_' := by simpa [isLetter, other] using mark
      rw [lowered_underscore]
      rfl

private theorem filter_snakeChars (state : SnakeState) (text : List Char) :
    (snakeChars state text).filter (· != '_') = loweredLetters text := by
  induction text generalizing state with
  | nil => rfl
  | cons c rest ih =>
    obtain ⟨lead, split, leads⟩ := snakeStep_written state c
    have none : lead.filter (· != '_') = [] := by
      rcases leads with rfl | ⟨rfl, _⟩ <;> rfl
    rw [snakeChars, List.filter_append, split, List.filter_append, none, filter_written, ih,
      loweredLetters, loweredLetters, List.filter_cons]
    split <;> rfl

/-- Where an underscore would be redundant, only one of the text itself comes first. -/
theorem head_snakeChars (redundant : state.afterUnderscore = true)
    (underscore : (snakeChars state text).head? = some '_') : firstOfWords? text = some '_' := by
  induction text generalizing state with
  | nil => cases underscore
  | cons c rest ih =>
    rw [firstOfWords?, List.find?_cons]
    cases separator : isSeparator c with
    | true =>
      have skipped : snakeStep state c = ([], ⟨false, true⟩) := by
        have separates : c = '-' ∨ c = '.' := by simpa [isSeparator] using separator
        rw [snakeStep, if_pos separates, if_pos redundant]
      rw [snakeChars, skipped] at underscore
      exact ih rfl underscore
    | false =>
      obtain ⟨lead, split, leads⟩ := snakeStep_written state c
      obtain rfl : lead = [] := leads.resolve_right fun apart => by simp [redundant] at apart
      obtain ⟨first, more, letters⟩ := List.exists_cons_of_ne_nil (lowered_ne_nil c)
      rw [snakeChars, split, written, separator] at underscore
      obtain rfl : first = '_' := by simpa [letters] using underscore
      have member : '_' ∈ lowered c := letters ▸ List.mem_cons_self
      have mark : isLetter c = false := Bool.eq_false_iff.mpr fun letter =>
        absurd (isLetter_of_mem_lowered letter member) (by decide)
      simpa [isLetter, separator] using mark

/-- A character that is no separator and not uppercase is written as it is. -/
theorem snakeStep_of_plain (separator : isSeparator c = false) (upper : isUppercase c = false) :
    (snakeStep state c).1 = [c] := by
  have joined : ¬(c = '-' ∨ c = '.') := by simpa [isSeparator] using separator
  rw [snakeStep, if_neg joined, if_neg (Bool.eq_false_iff.mp upper)]

private theorem snakeChars_of_plain
    (plain : ∀ c ∈ text, isSeparator c = false ∧ isUppercase c = false) :
    snakeChars state text = text := by
  induction text generalizing state with
  | nil => rfl
  | cons c rest ih =>
    obtain ⟨⟨separator, upper⟩, later⟩ := List.forall_mem_cons.mp plain
    rw [snakeChars, snakeStep_of_plain separator upper, ih later, List.singleton_append]

/-- In ASCII every uppercase character has a lowercase form. -/
theorem not_isUppercase_of_mem_written (ascii : c.toNat < 128) (member : d ∈ written c) :
    isUppercase d = false := by
  have all : ∀ n < 128, (written (Char.ofNat n)).all (!isUppercase ·) = true := by decide +kernel
  have found := all c.toNat ascii
  rw [Char.ofNat_toNat, List.all_eq_true] at found
  simpa using found d member

private theorem not_isSeparator_of_mem_snakeCase (member : c ∈ (snakeCase name).toList) :
    isSeparator c = false := by
  rw [snakeCase, String.toList_ofList] at member
  rcases mem_snakeChars member with rfl | ⟨_, _, inside⟩
  · rfl
  · exact not_isSeparator_of_mem_written inside

private theorem snakeCase_of_plain
    (plain : ∀ c ∈ name.toList, isSeparator c = false ∧ isUppercase c = false) :
    snakeCase name = name := by
  rw [snakeCase, snakeChars_of_plain plain, String.ofList_toList]

/-- Snake case moves case and underscores only. No separator is left; the letters are those of the name in
lower case and in their order; an underscore comes first only if it is the first character of the name that
does not separate words; and a name that has neither separators nor uppercase characters stays as it is. So
a name in snake case stays as it is, unless an uppercase character is left in it; of an ASCII name none is
left. -/
theorem snakeCase_moves_case (name : String) :
    (∀ c ∈ (snakeCase name).toList, isSeparator c = false) ∧
    (snakeCase name).toList.filter (· != '_') = loweredLetters name.toList ∧
    ((snakeCase name).toList.head? = some '_' → firstOfWords? name.toList = some '_') ∧
    ((∀ c ∈ name.toList, isSeparator c = false ∧ isUppercase c = false) → snakeCase name = name) ∧
    ((∀ c ∈ (snakeCase name).toList, isUppercase c = false) →
      snakeCase (snakeCase name) = snakeCase name) ∧
    ((∀ c ∈ name.toList, c.toNat < 128) →
      (∀ c ∈ (snakeCase name).toList, isUppercase c = false) ∧
        snakeCase (snakeCase name) = snakeCase name) := by
  have again (lower : ∀ c ∈ (snakeCase name).toList, isUppercase c = false) :
      snakeCase (snakeCase name) = snakeCase name :=
    snakeCase_of_plain fun c member => ⟨not_isSeparator_of_mem_snakeCase member, lower c member⟩
  refine ⟨fun c => not_isSeparator_of_mem_snakeCase, ?letters, ?start, snakeCase_of_plain, again,
    ?ascii⟩
  case letters =>
    rw [snakeCase, String.toList_ofList]
    exact filter_snakeChars _ _
  case start =>
    rw [snakeCase, String.toList_ofList]
    exact head_snakeChars rfl
  case ascii =>
    intro ascii
    have lower : ∀ c ∈ (snakeCase name).toList, isUppercase c = false := by
      intro d member
      rw [snakeCase, String.toList_ofList] at member
      rcases mem_snakeChars member with rfl | ⟨c, listed, inside⟩
      · decide +kernel
      · exact not_isUppercase_of_mem_written (ascii c listed) inside
    exact ⟨lower, again lower⟩

/-- Without a lowercase form, a capital at the end of a run of capitals begins a run of its own in the
new name. -/
example : snakeCase "A𝐀" = "a𝐀" ∧ snakeCase "a𝐀" = "a_𝐀" := by decide +kernel

end NativeThunks.SnakeCase
