import NativeThunks.Proofs.CaseChange
import NativeThunks.Proofs.LexedNames

/-! Texts that are one word and nothing else. A letter that may begin a word begins no blank, no bracket,
no punctuation and no number, and the openings of quoted literals have characters in them that no word
goes on with. So the lexer reads such a text as this word, and it is an identifier unless it is a
keyword. -/
namespace NativeThunks.WholeWords
open CaseChange CharacterTables Grammar LexedNames Text

variable {first c : Char} {rest : List Char}

/-- The letters of a word: one that begins it, and others that may continue it. -/
structure Word (first : Char) (rest : List Char) : Prop where
  start : isWordStart first = true
  continued : ∀ c ∈ rest, isIdentifierContinue c = true

/-- A letter that begins a word is in no class of characters that has none of the letters that begin an
identifier. -/
theorem start_apart (table : List Nat) (start : isWordStart c = true)
    (underscore : inToggles table '_'.toNat = false)
    (apart : holdsThroughout (fun start other => !start || !other)
      (identifierStartTable.length + table.length + 1) false false identifierStartTable table = true) :
    inToggles table c.toNat = false := by
  rcases Bool.or_eq_true_iff.mp start with same | letter
  · exact beq_iff_eq.mp same ▸ underscore
  · have tested := test_everywhere apart c.toNat
    rw [show inToggles identifierStartTable c.toNat = true from letter] at tested
    simpa using tested

/-- A letter that begins a word is no blank, no slash and no mark. -/
theorem start_not_stray (start : isWordStart c = true) : isStray c = false := by
  apply Bool.eq_false_iff.mpr
  intro stray
  have apart := start_apart strayTable start (by decide) (by decide +kernel)
  exact absurd (listed_of_stray stray) (Bool.eq_false_iff.mp apart)

private theorem start_not_digit (start : isWordStart c = true) : ¬('0' ≤ c ∧ c ≤ '9') := by
  intro digit
  have apart := start_apart [48, 58] start (by decide) (by decide +kernel)
  have low : 48 ≤ c.toNat := digit.1
  have high : c.toNat ≤ 57 := digit.2
  simp [inToggles, Nat.not_lt.mpr low, Nat.lt_succ_of_le high] at apart

/-- No letter that begins a word is this character. -/
theorem start_ne (start : isWordStart c = true) {other : Char} (outside : isWordStart other = false) :
    c ≠ other := by
  rintro rfl
  exact absurd start (Bool.eq_false_iff.mp outside)

theorem Word.notMem (word : Word first rest) {other : Char}
    (outside : isIdentifierContinue other = false) : other ∉ rest :=
  fun member => absurd (word.continued other member) (Bool.eq_false_iff.mp outside)

private theorem isDigit_start (start : isWordStart c = true) : c.isDigit = false := by
  refine Bool.eq_false_iff.mpr fun digit => start_not_digit start ?_
  simp only [Char.isDigit, Bool.and_eq_true, decide_eq_true_eq] at digit
  exact digit

/-- Raw text has a quote. -/
theorem rawQuoted_unquoted (kind : QuoteKind) (unquoted : '"' ∉ rest) :
    rawQuoted? kind rest = none := by
  unfold rawQuoted?
  split
  · rename_i behind quoted
    have member : '"' ∈ rest.dropWhile (· == '#') := quoted ▸ List.mem_cons_self
    exact absurd ((List.dropWhile_suffix _).subset member) unquoted
  · rfl

private theorem ten_le_hexValue {digit : Nat} (letter : ¬('0' ≤ c ∧ c ≤ '9'))
    (value : hexValue? c = some digit) : 10 ≤ digit := by
  unfold hexValue? at value
  rw [if_neg letter] at value
  split at value
  · cases value
    exact Nat.le_add_right _ _
  · split at value
    · cases value
      exact Nat.le_add_right _ _
    · cases value

/-- A letter that is a digit to some base is none to base ten. -/
theorem wholeDigits_word (start : isWordStart first = true) :
    wholeDigits? 10 true (first :: rest) = none := by
  unfold wholeDigits?
  split
  · rfl
  · split
    · rename_i digit value
      have large : ¬digit < 10 := Nat.not_lt.mpr (ten_le_hexValue (start_not_digit start) value)
      rw [if_neg large, Bool.or_true, if_pos rfl]
    · rfl

private theorem number_word (start : isWordStart first = true) (rest : List Char) :
    fraction? (first :: rest) = none ∧ whole? (first :: rest) = none := by
  constructor
  · rw [fraction?, isDigit_start start]
    rfl
  · have zero : first ≠ '0' := start_ne start (by decide)
    unfold whole?
    split
    · rename_i same
      exact absurd (List.cons.inj same).1 zero
    · rename_i same
      exact absurd (List.cons.inj same).1 zero
    · rename_i same
      exact absurd (List.cons.inj same).1 zero
    · rw [wholeDigits_word start]
      rfl

/-- No literal begins with a letter of words when no quote follows it. -/
theorem literal_unquoted (start : isWordStart first = true) (noQuote : '"' ∉ rest)
    (noApostrophe : '\'' ∉ rest) : literal? (first :: rest) = none := by
  obtain ⟨fraction, whole⟩ := number_word start rest
  have raw (kind : QuoteKind) (skipped : List Char) (part : skipped <:+ rest) :
      rawQuoted? kind skipped = none :=
    rawQuoted_unquoted kind fun member => noQuote (part.subset member)
  unfold literal?
  rw [fraction, whole]
  split
  case h_1 same => exact absurd (List.cons.inj same).1 (start_ne start (by decide))
  case h_2 same =>
    cases same
    rw [raw _ _ List.suffix_rfl]
    rfl
  case h_3 same =>
    cases same
    exact absurd List.mem_cons_self noQuote
  case h_4 same =>
    cases same
    rw [raw _ _ (List.suffix_cons _ _)]
    rfl
  case h_5 same =>
    cases same
    exact absurd List.mem_cons_self noQuote
  case h_6 same =>
    cases same
    rw [raw _ _ (List.suffix_cons _ _)]
    rfl
  case h_7 same =>
    cases same
    exact absurd List.mem_cons_self noApostrophe
  case h_8 same => exact absurd (List.cons.inj same).1 (start_ne start (by decide))
  case h_9 => rfl

private theorem startsQuotedLiteral_word (word : Word first rest) :
    startsQuotedLiteral (first :: rest) = false := by
  have second : ∀ opening ∈ [['r', '"'], ['r', '#', '"'], ['r', '#', '#'], ['b', '"'], ['b', '\''],
      ['b', 'r', '"'], ['b', 'r', '#'], ['c', '"'], ['c', 'r', '"'], ['c', 'r', '#']],
      (opening.drop 1).any (!isIdentifierContinue ·) = true := by decide +kernel
  apply List.any_eq_false.mpr
  intro opening listed begins
  obtain ⟨behind, split⟩ := List.isPrefixOf_iff_prefix.mp begins
  obtain ⟨other, member, outside⟩ := List.any_eq_true.mp (second opening listed)
  have tail : opening.drop 1 ⊆ rest := by
    cases opening with
    | nil => cases member
    | cons _ more =>
      obtain ⟨-, rfl⟩ := List.cons_eq_cons.mp split
      exact List.subset_append_left more behind
  exact word.notMem (by simpa using outside) (tail member)

private theorem startsPunctuation_word (start : isWordStart first = true) :
    startsPunctuation (first :: rest) = false := by
  have marks : ['~', '!', '@', '#', '$', '%', '^', '&', '*', '-', '=', '+', '|', ';', ':', ',', '<',
      '.', '>', '/', '?', '\''].all (!isWordStart ·) = true := by decide +kernel
  have plain : isPunctuation first = false := by
    apply decide_eq_false
    intro listed
    simpa [start] using List.all_eq_true.mp marks first listed
  rw [startsPunctuation, plain]
  rfl

private theorem bracket_word (start : isWordStart first = true) : bracket? first = none := by
  unfold bracket?
  split <;> first | exact absurd start (by decide) | rfl

private theorem trivia_word (start : isWordStart first = true) : trivia? (first :: rest) = none := by
  have slash : first ≠ '/' := start_ne start (by decide)
  have blank : isBlank first = false := by
    have stray := start_not_stray start
    simp only [isStray, Bool.or_eq_false_iff] at stray
    exact stray.2
  unfold trivia?
  split
  case h_1 same => exact absurd (List.cons.inj same).1 slash
  case h_2 same => exact absurd (List.cons.inj same).1 slash
  case h_3 same =>
    cases same
    rw [blank]
    rfl
  case h_4 => rfl

/-- A text that begins like a word, and has no quotes in it, is one word when its letters are. -/
theorem trees_of_start {name : String} (start : isWordStart first = true) (noQuote : '"' ∉ rest)
    (noApostrophe : '\'' ∉ rest) (unopened : startsQuotedLiteral (first :: rest) = false)
    (taken : takeAnyWord? (first :: rest) = some (name, [])) :
    Tree.ofText? (String.ofList (first :: rest)) = some [.word name] := by
  have apostrophe : first ≠ '\'' := start_ne start (by decide)
  have read : leaf? (first :: rest) = some (.word name, []) := by
    simp [leaf?, literal_unquoted start noQuote noApostrophe, startsPunctuation_word start, unopened,
      taken, apostrophe]
  have unmarked : dropByteOrderMark (first :: rest) = first :: rest := by
    unfold dropByteOrderMark
    split
    case h_1 same => exact absurd (List.cons.inj same).1 (start_ne start (by decide +kernel))
    case h_2 => rfl
  have fine : errorText.isPrefixOf (first :: rest) = false := by
    have parenthesis : first ≠ '(' := start_ne start (by decide)
    simp [errorText, List.isPrefixOf, parenthesis.symm]
  simp [Tree.ofText?, unmarked, lexemes?, trivia_word start, fine, bracket_word start, read, nest]

private theorem takeWord_word (word : Word first rest) :
    takeWord? (first :: rest) = some (first :: rest, []) := by
  rw [takeWord?, if_pos word.start, List.takeWhile_eq_self_iff.mpr word.continued,
    List.dropWhile_eq_nil_iff.mpr word.continued]

/-- A text of a word's letters is read as this word. -/
theorem trees_of_word (word : Word first rest) :
    Tree.ofText? (String.ofList (first :: rest)) = some [.word (String.ofList (first :: rest))] := by
  refine trees_of_start word.start (word.notMem (by decide)) (word.notMem (by decide))
    (startsQuotedLiteral_word word) ?_
  have unraw : '#' ∉ rest := word.notMem (by decide)
  unfold takeAnyWord?
  split
  case h_1 same =>
    cases same
    exact absurd List.mem_cons_self unraw
  case h_2 => rw [takeWord_word word]

/-- So is a raw mark with a word behind it that has a raw spelling. -/
theorem trees_of_raw (word : Word first rest)
    (rawable : String.ofList (first :: rest) ∉ unrawableWords) :
    Tree.ofText? ("r#" ++ String.ofList (first :: rest)) =
      some [.word ("r#" ++ String.ofList (first :: rest))] := by
  have spelled : "r#" ++ String.ofList (first :: rest) =
      String.ofList ('r' :: '#' :: first :: rest) := by simp [← String.toList_inj]
  have quote : first ≠ '"' := start_ne word.start (by decide)
  have apostrophe : first ≠ '\'' := start_ne word.start (by decide)
  have hash : first ≠ '#' := start_ne word.start (by decide)
  have noQuote : '"' ∉ rest := word.notMem (by decide)
  have noApostrophe : '\'' ∉ rest := word.notMem (by decide)
  refine (congrArg Tree.ofText? spelled).trans (trees_of_start (by decide) ?_ ?_ ?_ ?_)
  · simp [quote.symm, noQuote]
  · simp [apostrophe.symm, noApostrophe]
  · simp [startsQuotedLiteral, List.isPrefixOf, quote.symm, hash.symm]
  · simp only [takeAnyWord?, takeWord_word word, if_neg rawable]

/-- A text that is read as one word is an identifier unless this is a keyword. -/
theorem isIdentifier_of_trees {text name : String} (lexed : Tree.ofText? text = some [.word name])
    (unreserved : name ∉ keywords) : isIdentifier text = true := by
  simp [isIdentifier, accepts, lexed, identifier_run, atIdentifier, unreserved]

end NativeThunks.WholeWords
