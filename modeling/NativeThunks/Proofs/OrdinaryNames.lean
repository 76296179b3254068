import NativeThunks.Proofs.WholeWords
import NativeThunks.Samples
import NativeThunks.Symbols

/-! Names that are never refused. The language has its own list of keywords, and the escape of reserved
words another one. A word in the second list has a spelling that is no keyword, and the first list
has no word beyond the second but the underscore alone. So what matters is that a name stays a word
when its case changes, and that it does not become the underscore. -/
namespace NativeThunks.OrdinaryNames
open Grammar Naming Text WholeWords

variable {name : String} {c first : Char} {rest : List Char}

/-- A letter of an ordinary name: an ASCII letter, a digit or an underscore. -/
def isPart (c : Char) : Bool := c.isAlphanum || c == '_'

/-- A letter that an ordinary name may begin with. -/
def isFirst (c : Char) : Bool := c.isAlpha || c == '_'

/-- A word of ASCII letters, digits and underscores, keyword or not, other than the underscore alone. -/
structure Ordinary (name : String) : Prop where
  spelled : ∃ first rest, name.toList = first :: rest ∧ isFirst first = true ∧
    ∀ c ∈ rest, isPart c = true
  other : name ≠ "_"

private theorem isPart_of_isFirst (start : isFirst first = true) : isPart first = true := by
  rcases Bool.or_eq_true_iff.mp start with letter | underscore
  · simp [isPart, Char.isAlphanum, letter]
  · simp [isPart, underscore]

private theorem ascii_of_isPart (part : isPart c = true) : c.toNat < 128 := by
  have bound (high : Char) (small : high.toNat < 128)
      (below : c.val ≤ high.val) : c.toNat < 128 := Nat.lt_of_le_of_lt below small
  rcases Bool.or_eq_true_iff.mp part with letter | underscore
  · rcases Bool.or_eq_true_iff.mp letter with alpha | digit
    · rcases Bool.or_eq_true_iff.mp alpha with upper | lower
      · exact bound 'Z' (by decide) (of_decide_eq_true upper).2
      · exact bound 'z' (by decide) (of_decide_eq_true (Bool.and_eq_true_iff.mp lower).2)
    · exact bound '9' (by decide) (of_decide_eq_true (Bool.and_eq_true_iff.mp digit).2)
  · rw [beq_iff_eq.mp underscore]
    decide

/-- Letters of names are few, so what is to hold of all of them is looked at one by one. -/
theorem of_isPart (property : Char → Prop)
    (held : ∀ n < 128, isPart (Char.ofNat n) = true → property (Char.ofNat n))
    (part : isPart c = true) : property c := by
  have found := held c.toNat (ascii_of_isPart part)
  rw [Char.ofNat_toNat] at found
  exact found part

private theorem continue_of_isPart (part : isPart c = true) : isIdentifierContinue c = true :=
  of_isPart (fun c => isIdentifierContinue c = true) (by decide +kernel) part

private theorem isWordStart_of_isFirst (start : isFirst first = true) : isWordStart first = true :=
  of_isPart (fun c => isFirst c = true → isWordStart c = true) (by decide +kernel)
    (isPart_of_isFirst start) start

/-- A letter of a name in lower case is one again, with what begins a name still beginning one. -/
theorem toLower_of_isPart (part : isPart c = true) : isPart c.toLower = true ∧
    (isFirst c = true → isFirst c.toLower = true) ∧ (c.toLower = '_' → c = '_') :=
  of_isPart (fun c => isPart c.toLower = true ∧
    (isFirst c = true → isFirst c.toLower = true) ∧ (c.toLower = '_' → c = '_'))
    (by decide +kernel) part

/-- For the letters of names, case in all of Unicode is case in ASCII. -/
theorem case_of_isPart (part : isPart c = true) : c ≠ '-' ∧ c ≠ '.' ∧
    (isUppercase c = true → lowercase c = [c.toLower]) ∧
    (isUppercase c = false → c.toLower = c) :=
  of_isPart (fun c => c ≠ '-' ∧ c ≠ '.' ∧
    (isUppercase c = true → lowercase c = [c.toLower]) ∧ (isUppercase c = false → c.toLower = c))
    (by decide +kernel) part

/-- A letter is written in lower case, with at most an underscore before it, and none where one would
be redundant. -/
theorem snakeStep_of_isPart (state : SnakeState) (part : isPart c = true) :
    (snakeStep state c).1 = [c.toLower] ∨
      state.afterUnderscore = false ∧ (snakeStep state c).1 = ['_', c.toLower] := by
  obtain ⟨hyphen, dot, upper, lower⟩ := case_of_isPart part
  unfold snakeStep
  rw [if_neg (not_or.mpr ⟨hyphen, dot⟩)]
  split
  · rename_i capital
    rw [upper capital]
    split
    · rename_i apart
      exact .inr ⟨by simpa using (Bool.and_eq_true_iff.mp apart).2, rfl⟩
    · exact .inl rfl
  · rename_i small
    rw [lower (Bool.eq_false_iff.mpr small)]
    exact .inl rfl

/-- The letters after the change are letters of names, and at least as many as before. -/
theorem snakeChars_of_isPart (state : SnakeState) (parts : ∀ c ∈ rest, isPart c = true) :
    (∀ c ∈ snakeChars state rest, isPart c = true) ∧
      rest.length ≤ (snakeChars state rest).length := by
  induction rest generalizing state with
  | nil => exact ⟨parts, Nat.le_refl 0⟩
  | cons c rest ih =>
    obtain ⟨part, later⟩ := List.forall_mem_cons.mp parts
    obtain ⟨kept, longer⟩ := ih (snakeStep state c).2 later
    have low := (toLower_of_isPart part).1
    have underscore : isPart '_' = true := by decide
    rw [snakeChars]
    rcases snakeStep_of_isPart state part with same | ⟨-, apart⟩
    · rw [same]
      exact ⟨List.forall_mem_cons.mpr ⟨low, kept⟩, Nat.succ_le_succ longer⟩
    · rw [apart]
      refine ⟨List.forall_mem_cons.mpr ⟨underscore, List.forall_mem_cons.mpr ⟨low, kept⟩⟩, ?_⟩
      exact Nat.succ_le_succ (Nat.le_succ_of_le longer)

/-- In snake case an ordinary name is ordinary. -/
theorem Ordinary.snakeCase (ordinary : Ordinary name) : Ordinary (snakeCase name) := by
  obtain ⟨⟨first, rest, spelled, start, parts⟩, other⟩ := ordinary
  have part := isPart_of_isFirst start
  obtain ⟨-, begins, underscore⟩ := toLower_of_isPart part
  obtain ⟨kept, longer⟩ := snakeChars_of_isPart (snakeStep ⟨false, true⟩ first).2 parts
  have opening : (snakeStep ⟨false, true⟩ first).1 = [first.toLower] :=
    (snakeStep_of_isPart _ part).resolve_right fun apart => Bool.noConfusion apart.1
  have changed : (Naming.snakeCase name).toList =
      first.toLower :: snakeChars (snakeStep ⟨false, true⟩ first).2 rest := by
    rw [Naming.snakeCase, String.toList_ofList, spelled, snakeChars, opening]
    rfl
  refine ⟨⟨_, _, changed, begins start, kept⟩, fun alone => other ?_⟩
  rw [alone] at changed
  obtain ⟨low, nothing⟩ := List.cons_eq_cons.mp changed
  rw [← nothing] at longer
  obtain rfl := List.eq_nil_of_length_eq_zero (Nat.le_zero.mp longer)
  rw [← String.toList_inj, spelled, underscore low.symm]
  rfl

/-- Every keyword but the underscore is escaped. -/
theorem reserved_of_keyword : ∀ word ∈ keywords, word = "_" ∨ word ∈ reservedWords := by
  decide +kernel

/-- The words without a raw spelling are escaped in the other way. -/
theorem path_of_unrawable : ∀ word ∈ unrawableWords, word = "_" ∨ word ∈ pathWords := by
  decide +kernel

/-- The escape of a word other than the underscore alone is an identifier. -/
theorem isIdentifier_escapeReserved (spelled : name.toList = first :: rest) (word : Word first rest)
    (other : name ≠ "_") : isIdentifier (escapeReserved name) = true := by
  obtain rfl : String.ofList (first :: rest) = name := by rw [← spelled, String.ofList_toList]
  rw [escapeReserved]
  split
  · rename_i path
    have lengthened : ∀ word ∈ pathWords, isIdentifier (word ++ "_") = true := by decide +kernel
    exact lengthened _ path
  · rename_i plain
    split
    · have rawable := mt (path_of_unrawable _) (not_or.mpr ⟨other, plain⟩)
      have unmarked : ∀ word ∈ keywords, '#' ∉ word.toList := by decide +kernel
      exact isIdentifier_of_trees (trees_of_raw word rawable) fun keyword =>
        unmarked _ keyword (by simp)
    · rename_i unreserved
      exact isIdentifier_of_trees (trees_of_word word)
        (mt (reserved_of_keyword _) (not_or.mpr ⟨other, unreserved⟩))

/-- No keyword begins like the name of a setter. -/
theorem isIdentifier_setter (parts : ∀ c ∈ name.toList, isPart c = true) :
    isIdentifier ("set_" ++ name) = true := by
  have apart : ∀ word ∈ keywords, ¬['s', 'e', 't', '_'] <+: word.toList := by decide +kernel
  have spelled : "set_" ++ name = String.ofList ('s' :: (['e', 't', '_'] ++ name.toList)) := by
    simp [← String.toList_inj]
  have word : Word 's' (['e', 't', '_'] ++ name.toList) :=
    ⟨by decide, List.forall_mem_append.mpr
      ⟨List.all_eq_true.mp (by decide), fun c member => continue_of_isPart (parts c member)⟩⟩
  rw [spelled]
  exact isIdentifier_of_trees (trees_of_word word)
    fun keyword => apart _ keyword ⟨name.toList, by simp⟩

theorem Ordinary.parts (ordinary : Ordinary name) : ∀ c ∈ name.toList, isPart c = true := by
  obtain ⟨⟨first, rest, spelled, start, parts⟩, -⟩ := ordinary
  rw [spelled]
  exact List.forall_mem_cons.mpr ⟨isPart_of_isFirst start, parts⟩

theorem Ordinary.escape_accepted (ordinary : Ordinary name) :
    isIdentifier (escapeReserved name) = true := by
  obtain ⟨⟨first, rest, spelled, start, parts⟩, other⟩ := ordinary
  refine isIdentifier_escapeReserved spelled ⟨isWordStart_of_isFirst start, fun c member => ?_⟩ other
  exact continue_of_isPart (parts c member)

/-- No ordinary name is refused. The function of a member with this name, whatever its kind, has a name
that is an identifier, and so has a parameter of this name, also where the name is a keyword or becomes
one in snake case. -/
theorem ordinary_name_accepted (ordinary : Ordinary name) :
    (∀ decl : Declaration, decl.name = name → isIdentifier decl.functionName = true) ∧
      isIdentifier (escapeReserved name) = true := by
  refine ⟨?_, ordinary.escape_accepted⟩
  rintro decl rfl
  unfold Declaration.functionName
  split
  · exact isIdentifier_setter ordinary.snakeCase.parts
  · exact ordinary.snakeCase.escape_accepted

/-- A name that is a path word in snake case only. -/
theorem ordinary_name_accepted_super :
    Ordinary "Super" ∧
      (Declaration.method Samples.camera "Super").functionName = "super_" ∧
      isIdentifier (Declaration.method Samples.camera "Super").functionName = true ∧
      isIdentifier (Declaration.setter Samples.camera "Super" .bool).functionName = true ∧
      isIdentifier (escapeReserved "Super") = true := by
  have ordinary : Ordinary "Super" :=
    ⟨⟨'S', ['u', 'p', 'e', 'r'], by decide, by decide, List.all_eq_true.mp (by decide)⟩, by decide⟩
  obtain ⟨members, parameter⟩ := ordinary_name_accepted ordinary
  exact ⟨ordinary, by decide +kernel, members _ rfl, members _ rfl, parameter⟩

/-- The underscore alone has no escape. -/
example : isIdentifier (escapeReserved "_") = false := by decide +kernel

end NativeThunks.OrdinaryNames
