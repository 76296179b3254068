import NativeThunks.Grammar
import Mathlib.Data.List.TakeWhile

/-! How the lexer goes through a text, and what that says about the texts that are taken for a name.
A name may stand between blanks and comments, which the check of names does not see. Said here is
what exactly may stand there, and that a slash gives every such comment away. -/
namespace NativeThunks.LexedNames
open Grammar Text

/-- What the lexer takes from the front of a text: the lexemes that it stands for, and the text
behind it. -/
inductive Front : List Char → List Lexeme → List Char → Prop where
  | trivia {text found behind} (skipped : trivia? text = some (found, behind)) :
      Front text found behind
  | errorMark {c rest} (solid : trivia? (c :: rest) = none)
      (marked : errorText.isPrefixOf (c :: rest) = true) :
      Front (c :: rest) [.leaf (.literal .errorMark)] ((c :: rest).drop errorText.length)
  | bracket {c rest lexeme} (solid : trivia? (c :: rest) = none)
      (unmarked : errorText.isPrefixOf (c :: rest) = false) (found : bracket? c = some lexeme) :
      Front (c :: rest) [lexeme] rest
  | leaf {c rest tree behind} (solid : trivia? (c :: rest) = none)
      (unmarked : errorText.isPrefixOf (c :: rest) = false) (plain : bracket? c = none)
      (read : leaf? (c :: rest) = some (tree, behind)) : Front (c :: rest) [.leaf tree] behind

/-- The lexer comes from the front of the one text to the front of the other. -/
inductive Reached : List Char → List Char → Prop where
  | here (text : List Char) : Reached text text
  | next {text found behind rest} (front : Front text found behind) (later : Reached behind rest) :
      Reached text rest

/-- Only blanks and plain comments stand before the rest of a text. -/
inductive Skipped : List Char → List Char → Prop where
  | here (text : List Char) : Skipped text text
  | next {text behind rest} (skipped : trivia? text = some ([], behind))
      (later : Skipped behind rest) : Skipped text rest

/-- A text has a comment where the lexer comes to the start of one. -/
def HasComment (text : String) : Prop :=
  ∃ rest, rest <:+ text.toList ∧ startsComment rest = true ∧
    Reached (dropByteOrderMark text.toList) rest

/-- The actual lexer does nothing but such steps. -/
theorem lexemes_cons {fuel : Nat} {c : Char} {rest : List Char} {lexemes : List Lexeme}
    (ran : lexemes? (fuel + 1) (c :: rest) = some lexemes) :
    ∃ found behind more, Front (c :: rest) found behind ∧ lexemes? fuel behind = some more ∧
      lexemes = found ++ more := by
  unfold lexemes? at ran
  split at ran
  · rename_i found behind skipped
    obtain ⟨more, later, rfl⟩ := Option.map_eq_some_iff.mp ran
    exact ⟨found, behind, more, .trivia skipped, later, rfl⟩
  · rename_i solid
    split at ran
    · rename_i marked
      obtain ⟨more, later, rfl⟩ := Option.map_eq_some_iff.mp ran
      exact ⟨_, _, more, .errorMark solid marked, later, rfl⟩
    · rename_i unmarked
      have unmarked := Bool.eq_false_iff.mpr unmarked
      split at ran
      · rename_i lexeme found
        obtain ⟨more, later, rfl⟩ := Option.map_eq_some_iff.mp ran
        exact ⟨_, _, more, .bracket solid unmarked found, later, rfl⟩
      · rename_i plain
        split at ran
        · rename_i tree behind read
          obtain ⟨more, later, rfl⟩ := Option.map_eq_some_iff.mp ran
          exact ⟨_, _, more, .leaf solid unmarked plain read, later, rfl⟩
        · cases ran

/-- What is skipped is a comment or one blank, and only documentation leaves lexemes behind. -/
theorem trivia_cases {text behind : List Char} {found : List Lexeme}
    (skipped : trivia? text = some (found, behind)) :
    (startsComment text = true ∧ (found = [] ∨ ∃ inner, found = documentation inner)) ∨
      found = [] ∧ ∃ c, isBlank c = true ∧ text = c :: behind := by
  unfold trivia? at skipped
  split at skipped
  · refine .inl ⟨rfl, ?_⟩
    dsimp only at skipped
    split at skipped
    · split at skipped
      · cases skipped
      · cases skipped
        exact .inr ⟨_, rfl⟩
    · cases skipped
      exact .inl rfl
  · refine .inl ⟨rfl, ?_⟩
    dsimp only at skipped
    split at skipped
    · cases skipped
      exact .inl rfl
    · split at skipped
      · split at skipped
        · split at skipped
          · cases skipped
          · cases skipped
            exact .inr ⟨_, rfl⟩
        · cases skipped
          exact .inl rfl
      · cases skipped
  · rename_i c rest _ _
    split at skipped
    · rename_i blank
      cases skipped
      exact .inr ⟨rfl, c, blank, rfl⟩
    · cases skipped
  · cases skipped

private theorem documentation_ne_leaf (inner : Bool) (tree : Tree) :
    documentation inner ≠ [.leaf tree] := by
  intro same
  have lengths := congrArg List.length same
  cases inner <;> simp [documentation] at lengths

/-- Nothing but brackets is read as brackets. -/
theorem bracket_ne_leaf {c : Char} {tree : Tree} : bracket? c ≠ some (.leaf tree) := by
  unfold bracket?
  split <;> simp

/-- A word comes from the letters at the front of the text. -/
theorem leaf_word {text behind : List Char} {word : String}
    (read : leaf? text = some (.word word, behind)) : takeAnyWord? text = some (word, behind) := by
  unfold leaf? at read
  split at read
  · cases read
  · split at read
    · cases read
    · split at read
      · split at read
        · split at read
          · split at read <;> cases read
          · cases read
        · cases read
      · split at read
        · cases read
        · split at read
          · cases read
          · obtain ⟨⟨name, rest⟩, taken, same⟩ := Option.map_eq_some_iff.mp read
            cases same
            exact taken

theorem Front.takeAnyWord {text behind : List Char} {word : String}
    (front : Front text [.leaf (.word word)] behind) :
    takeAnyWord? text = some (word, behind) := by
  generalize lexemes : [Lexeme.leaf (.word word)] = found at front
  cases front with
  | trivia skipped =>
    rcases trivia_cases skipped with ⟨_, rfl | ⟨inner, rfl⟩⟩ | ⟨rfl, _⟩
    · cases lexemes
    · exact absurd lexemes.symm (documentation_ne_leaf inner _)
    · cases lexemes
  | errorMark solid marked => cases lexemes
  | bracket solid unmarked found =>
    cases lexemes
    exact absurd found bracket_ne_leaf
  | leaf solid unmarked plain read =>
    cases lexemes
    exact leaf_word read

/-- A step that leaves no lexeme behind skips something. -/
theorem Front.skipped {text behind : List Char} (front : Front text [] behind) :
    trivia? text = some ([], behind) := by
  generalize lexemes : ([] : List Lexeme) = found at front
  cases front with
  | trivia skipped => exact lexemes ▸ skipped
  | errorMark solid marked => cases lexemes
  | bracket solid unmarked found => cases lexemes
  | leaf solid unmarked plain read => cases lexemes

/-- Without a group among the trees no bracket was matched, and the trees are the lexemes. -/
theorem nest_leaves {lexemes : List Lexeme} {pending : List (Delimiter × List Tree)}
    {level trees : List Tree} (matched : nest lexemes pending level = some trees)
    (flat : ∀ delimiter inner, Tree.group delimiter inner ∉ trees) :
    pending = [] ∧ ∃ more, lexemes = more.map .leaf ∧ trees = level.reverse ++ more := by
  induction lexemes generalizing pending level with
  | nil =>
    cases pending with
    | nil =>
      cases matched
      exact ⟨rfl, [], rfl, (List.append_nil _).symm⟩
    | cons opened outer => cases matched
  | cons lexeme rest ih =>
    cases lexeme with
    | leaf tree =>
      obtain ⟨closed, more, rfl, rfl⟩ := ih matched
      exact ⟨closed, tree :: more, rfl, by simp⟩
    | opening delimiter =>
      obtain ⟨closed, _⟩ := ih matched
      cases closed
    | closing delimiter =>
      cases pending with
      | nil => cases matched
      | cons opened outer =>
        simp only [nest] at matched
        split at matched
        · obtain ⟨_, more, _, rfl⟩ := ih matched
          exact absurd (by simp) (flat delimiter level.reverse)
        · cases matched

private theorem skipped_of_lexemes_nil {fuel : Nat} {text : List Char}
    (ran : lexemes? fuel text = some []) : Skipped text [] := by
  induction fuel generalizing text with
  | zero =>
    cases text with
    | nil => exact .here []
    | cons c rest => cases ran
  | succ fuel ih =>
    cases text with
    | nil => exact .here []
    | cons c rest =>
      obtain ⟨found, behind, more, front, later, none⟩ := lexemes_cons ran
      obtain ⟨rfl, rfl⟩ := List.append_eq_nil_iff.mp none.symm
      exact .next front.skipped (ih later)

/-- One word, with nothing but blanks and plain comments before and behind it. -/
structure OneWord (text : List Char) (word : String) (front behind : List Char) : Prop where
  before : Skipped text front
  word : Front front [.leaf (.word word)] behind
  after : Skipped behind []

private theorem oneWord_of_lexemes {fuel : Nat} {text : List Char} {word : String}
    (ran : lexemes? fuel text = some [.leaf (.word word)]) :
    ∃ front behind, OneWord text word front behind := by
  induction fuel generalizing text with
  | zero => cases text <;> cases ran
  | succ fuel ih =>
    cases text with
    | nil => cases ran
    | cons c rest =>
      obtain ⟨found, behind, more, front, later, split⟩ := lexemes_cons ran
      cases found with
      | nil =>
        obtain rfl := split
        obtain ⟨start, finish, one⟩ := ih later
        exact ⟨start, finish, .next front.skipped one.before, one.word, one.after⟩
      | cons first others =>
        obtain ⟨rfl, empty⟩ := List.cons_eq_cons.mp split
        obtain ⟨rfl, rfl⟩ := List.append_eq_nil_iff.mp empty.symm
        exact ⟨c :: rest, behind, .here _, front, skipped_of_lexemes_nil later⟩

theorem identifier_run (trees : List Tree) :
    identifier.run trees = if atIdentifier trees = true then some ((), trees.drop 1) else none := by
  by_cases fits : atIdentifier trees = true <;>
    simp [identifier, takeIf, skip, fits, StateT.run, bind, StateT.bind, get, getThe, MonadStateOf.get,
      StateT.get, modify, modifyGet, MonadStateOf.modifyGet, StateT.modifyGet, failure, StateT.failure]

/-- A text that is taken for an identifier has one word among its tokens, and no other token. -/
theorem trees_of_isIdentifier {text : String} (accepted : isIdentifier text = true) :
    ∃ word, word ∉ keywords ∧ Tree.ofText? text = some [.word word] := by
  unfold isIdentifier accepts at accepted
  cases lexed : Tree.ofText? text with
  | none => simp [lexed] at accepted
  | some trees =>
    simp only [lexed, identifier_run] at accepted
    obtain ⟨word, others, rfl⟩ : ∃ word others, trees = .word word :: others := by
      cases trees with
      | nil => simp [atIdentifier] at accepted
      | cons tree others => cases tree <;> simp [atIdentifier] at accepted ⊢
    by_cases known : word ∈ keywords
    · simp [atIdentifier, known] at accepted
    · obtain rfl : others = [] := by
        cases others with
        | nil => rfl
        | cons tree more => simp [atIdentifier, known] at accepted
      exact ⟨word, known, rfl⟩

/-- A text with one word among its tokens, and no other token, is one word. -/
theorem oneWord_of_trees {text word : String} (lexed : Tree.ofText? text = some [.word word]) :
    ∃ front behind, OneWord (dropByteOrderMark text.toList) word front behind := by
  obtain ⟨lexemes, ran, matched⟩ := Option.bind_eq_some_iff.mp lexed
  obtain ⟨_, more, rfl, trees⟩ := nest_leaves matched (by simp)
  cases trees
  exact oneWord_of_lexemes ran

/-- A text that is taken for an identifier is one word that is no keyword. -/
theorem oneWord_of_isIdentifier {text : String} (accepted : isIdentifier text = true) :
    ∃ word front behind, word ∉ keywords ∧
      OneWord (dropByteOrderMark text.toList) word front behind := by
  obtain ⟨word, known, lexed⟩ := trees_of_isIdentifier accepted
  obtain ⟨front, behind, one⟩ := oneWord_of_trees lexed
  exact ⟨word, front, behind, known, one⟩

theorem takeWord_split {text letters behind : List Char}
    (taken : takeWord? text = some (letters, behind)) :
    text = letters ++ behind ∧ ∃ first more, letters = first :: more ∧ isWordStart first = true ∧
      ∀ c ∈ more, isIdentifierContinue c = true := by
  unfold takeWord? at taken
  split at taken
  · rename_i c rest
    split at taken
    · rename_i start
      cases taken
      refine ⟨by simp, c, _, rfl, start, ?_⟩
      intro letter member
      exact List.mem_takeWhile_imp member
    · cases taken
  · cases taken

/-- A word is raw, with its mark in front, or plain. -/
theorem takeAnyWord_cases {text behind : List Char} {word : String}
    (taken : takeAnyWord? text = some (word, behind)) :
    (∃ rest letters, text = 'r' :: '#' :: rest ∧ takeWord? rest = some (letters, behind) ∧
        word = "r#" ++ String.ofList letters) ∨
      ∃ letters, takeWord? text = some (letters, behind) ∧ word = String.ofList letters := by
  unfold takeAnyWord? at taken
  split at taken
  · rename_i rest
    split at taken
    · rename_i letters _ found
      dsimp only at taken
      split at taken
      · cases taken
      · cases taken
        exact .inl ⟨rest, letters, rfl, found, rfl⟩
    · cases taken
  · split at taken
    · rename_i letters _ found
      cases taken
      exact .inr ⟨letters, found, rfl⟩
    · cases taken

/-- The letters of a word, a raw mark included. -/
theorem takeAnyWord_split {text behind : List Char} {word : String}
    (taken : takeAnyWord? text = some (word, behind)) :
    ∃ letters, text = letters ++ behind ∧ ∀ c ∈ letters,
      c = '#' ∨ isWordStart c = true ∨ isIdentifierContinue c = true := by
  have plain : ∀ {text letters : List Char}, takeWord? text = some (letters, behind) →
      text = letters ++ behind ∧
        ∀ c ∈ letters, isWordStart c = true ∨ isIdentifierContinue c = true := by
    intro text letters found
    obtain ⟨split, first, more, rfl, start, letter⟩ := takeWord_split found
    refine ⟨split, ?_⟩
    intro c member
    rcases List.mem_cons.mp member with rfl | later
    · exact .inl start
    · exact .inr (letter c later)
  rcases takeAnyWord_cases taken with ⟨rest, letters, rfl, found, _⟩ | ⟨letters, found, _⟩
  · obtain ⟨rfl, letter⟩ := plain found
    refine ⟨'r' :: '#' :: letters, rfl, ?_⟩
    intro c member
    rcases List.mem_cons.mp member with rfl | member
    · exact .inr (.inl (by decide))
    · rcases List.mem_cons.mp member with rfl | member
      · exact .inl rfl
      · exact .inr (letter c member)
  · obtain ⟨rfl, letter⟩ := plain found
    exact ⟨letters, rfl, fun c member => .inr (letter c member)⟩

private theorem slash_not_letter :
    ¬('/' = '#' ∨ isWordStart '/' = true ∨ isIdentifierContinue '/' = true) := by
  decide

private theorem slash_not_blank : isBlank '/' = false := by decide

theorem slash_mem_of_comment {text : List Char} (comment : startsComment text = true) :
    '/' ∈ text := by
  unfold startsComment at comment
  split at comment
  · exact List.mem_cons_self
  · exact List.mem_cons_self
  · cases comment

/-- What is skipped has a comment in it, which the lexer comes to, or is blank. -/
theorem skipped_cases {text rest : List Char} (skipped : Skipped text rest) :
    (∃ comment, comment <:+ text ∧ startsComment comment = true ∧ Reached text comment) ∨
      Reached text rest ∧ ∃ blanks, text = blanks ++ rest ∧ ∀ c ∈ blanks, isBlank c = true := by
  induction skipped with
  | here text => exact .inr ⟨.here text, [], rfl, by simp⟩
  | next skipped later ih =>
    rcases trivia_cases skipped with ⟨comment, _⟩ | ⟨_, c, blank, rfl⟩
    · exact .inl ⟨_, List.suffix_refl _, comment, .here _⟩
    · rcases ih with ⟨comment, part, start, reached⟩ | ⟨reached, blanks, rfl, blank'⟩
      · exact .inl ⟨comment, part.trans (List.suffix_cons _ _), start, .next (.trivia skipped) reached⟩
      · refine .inr ⟨.next (.trivia skipped) reached, c :: blanks, rfl, fun d member => ?_⟩
        rcases List.mem_cons.mp member with rfl | member
        · exact blank
        · exact blank' d member

theorem Reached.trans {text middle rest : List Char} (first : Reached text middle)
    (second : Reached middle rest) : Reached text rest := by
  induction first with
  | here text => exact second
  | next front later ih => exact .next front (ih second)

/-- One word in a text has a comment beside it or only blanks. -/
theorem oneWord_cases {text front behind : List Char} {word : String}
    (one : OneWord text word front behind) :
    (∃ comment, comment <:+ text ∧ startsComment comment = true ∧ Reached text comment) ∨
      ∃ before letters after, text = before ++ (letters ++ after) ∧
        takeAnyWord? (letters ++ after) = some (word, after) ∧
        ∀ c ∈ before ++ after, isBlank c = true := by
  rcases skipped_cases one.before with comment | ⟨reached, before, rfl, blank⟩
  · exact .inl comment
  · have taken := one.word.takeAnyWord
    obtain ⟨letters, rfl, _⟩ := takeAnyWord_split taken
    rcases skipped_cases one.after with ⟨comment, part, start, later⟩ | ⟨_, after, split, blank'⟩
    · refine .inl ⟨comment, ?_, start, reached.trans (.next one.word later)⟩
      exact part.trans ((List.suffix_append _ _).trans (List.suffix_append _ _))
    · rw [List.append_nil] at split
      subst split
      refine .inr ⟨before, letters, behind, rfl, taken, fun c member => ?_⟩
      rcases List.mem_append.mp member with member | member
      · exact blank c member
      · exact blank' c member

theorem dropByteOrderMark_cases (text : List Char) :
    text = dropByteOrderMark text ∨ text = '\ufeff' :: dropByteOrderMark text := by
  unfold dropByteOrderMark
  split
  · exact .inr rfl
  · exact .inl rfl

private theorem dropByteOrderMark_suffix (text : List Char) : dropByteOrderMark text <:+ text := by
  rcases dropByteOrderMark_cases text with same | marked
  · exact ⟨[], same.symm⟩
  · exact ⟨['\ufeff'], marked.symm⟩

/-- Letters and blanks are no slashes. -/
theorem slash_not_mem {before letters after : List Char} {word : String}
    (taken : takeAnyWord? (letters ++ after) = some (word, after))
    (blank : ∀ c ∈ before ++ after, isBlank c = true) : '/' ∉ before ++ (letters ++ after) := by
  have notBlank : '/' ∉ before ++ after := by
    intro member
    exact absurd (blank '/' member) (Bool.eq_false_iff.mp slash_not_blank)
  obtain ⟨found, same, letter⟩ := takeAnyWord_split taken
  obtain rfl := List.append_cancel_right same
  intro member
  rcases List.mem_append.mp member with member | member
  · exact notBlank (List.mem_append_left _ member)
  · rcases List.mem_append.mp member with member | member
    · exact slash_not_letter (letter '/' member)
    · exact notBlank (List.mem_append_right _ member)

/-- A name has a comment exactly when it has a slash. -/
theorem hasComment_iff_slash {text : String} (accepted : isIdentifier text = true) :
    HasComment text ↔ '/' ∈ text.toList := by
  constructor
  · rintro ⟨comment, part, start, _⟩
    exact part.subset (slash_mem_of_comment start)
  · intro slash
    obtain ⟨word, front, behind, _, one⟩ := oneWord_of_isIdentifier accepted
    rcases oneWord_cases one with
      ⟨comment, part, start, reached⟩ | ⟨before, letters, after, split, taken, blank⟩
    · exact ⟨comment, part.trans (dropByteOrderMark_suffix _), start, reached⟩
    · have absent := split ▸ slash_not_mem taken blank
      rcases dropByteOrderMark_cases text.toList with same | marked
      · exact absurd (same ▸ slash) absent
      · rw [marked] at slash
        exact absurd ((List.mem_cons.mp slash).resolve_left (by decide)) absent

/-- A text of one word that has no slash is that word between blanks. -/
theorem spelled_of_trees {text word : String} (lexed : Tree.ofText? text = some [.word word])
    (plain : '/' ∉ text.toList) :
    ∃ before letters after, dropByteOrderMark text.toList = before ++ (letters ++ after) ∧
      takeAnyWord? (letters ++ after) = some (word, after) ∧
      ∀ c ∈ before ++ after, isBlank c = true := by
  obtain ⟨front, behind, one⟩ := oneWord_of_trees lexed
  rcases oneWord_cases one with ⟨comment, part, start, _⟩ | spelled
  · have member := part.subset (slash_mem_of_comment start)
    exact absurd ((dropByteOrderMark_suffix _).subset member) plain
  · exact spelled

/-- A name without a slash is one word between blanks. -/
theorem spelled_plainly {text : String} (accepted : isIdentifier text = true)
    (plain : '/' ∉ text.toList) :
    ∃ word before letters after, dropByteOrderMark text.toList = before ++ (letters ++ after) ∧
      takeAnyWord? (letters ++ after) = some (word, after) ∧
      ∀ c ∈ before ++ after, isBlank c = true := by
  obtain ⟨word, _, lexed⟩ := trees_of_isIdentifier accepted
  exact ⟨word, spelled_of_trees lexed plain⟩

end NativeThunks.LexedNames
