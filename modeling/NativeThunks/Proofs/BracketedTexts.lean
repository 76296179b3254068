import NativeThunks.Proofs.BracketedLiterals
import NativeThunks.Proofs.BracketedTypes
import NativeThunks.Proofs.LexedNames

/-! Texts with a closing angle bracket behind them. No token and no comment in brackets reaches into the
bracket, so the lexer goes through the text as it does without; only a line comment that is open at the
end of the text takes the bracket with it. -/
namespace NativeThunks.BracketedTexts
open BracketedLiterals BracketedTypes ClosingBrackets Grammar LexedNames Text

variable {text : List Char}

/-! ## Blanks and comments -/

/-- A line comment that is open at the end of the text. -/
def OpenLine (text : List Char) : Prop := ∃ rest, text = '/' :: '/' :: rest ∧ '\n' ∉ rest

private theorem line_bracketed (broken : '\n' ∈ text) :
    (bracketed text).takeWhile (· != '\n') = text.takeWhile (· != '\n') ∧
      (bracketed text).dropWhile (· != '\n') = bracketed (text.dropWhile (· != '\n')) := by
  induction text with
  | nil => cases broken
  | cons c rest ih =>
    by_cases newline : c = '\n'
    · subst newline
      exact ⟨rfl, rfl⟩
    · have later := ih ((List.mem_cons.mp broken).resolve_left (Ne.symm newline))
      simp [newline, later]

private theorem lineText_bracketed (broken : '\n' ∈ text) :
    lineText (bracketed text) = lineText text := by
  have shorter : (text.takeWhile (· != '\n')).length < text.length := by
    have front := List.takeWhile_prefix (l := text) (· != '\n')
    apply lt_of_le_of_ne front.length_le
    intro same
    rw [← front.eq_of_length same] at broken
    exact absurd (List.mem_takeWhile_imp broken) (by decide)
  unfold lineText
  rw [(line_bracketed broken).1, length_bracketed]
  simp [shorter, Nat.lt_succ_of_lt shorter]

private theorem dropBlock_bracketed (depth : Nat) (text : List Char) :
    dropBlock? depth (bracketed text) = (dropBlock? depth text).map bracketed := by
  fun_induction dropBlock? depth text
  case case4 deep ih => simp only [bracketed_cons, dropBlock?, deep, if_false, ih]
  case case5 c rest _ _ ih =>
    cases rest with
    | nil =>
      rw [bracketed_cons, bracketed_nil, dropBlock?]
      all_goals simp_all [dropBlock?]
    | cons d more =>
      rw [bracketed_cons, bracketed_cons, dropBlock?, ← bracketed_cons, ih]
      all_goals simp_all
  all_goals simp_all [dropBlock?]

private theorem hasBareReturn_bracketed (text : List Char) :
    hasBareReturn (bracketed text) = hasBareReturn text := by
  fun_induction hasBareReturn text
  case case3 rest _ => cases rest <;> simp_all [hasBareReturn]
  all_goals simp_all [hasBareReturn]

/-- Whether a comment documents what stands behind it. -/
def documents (mark : Char) (rest : List Char) : Prop :=
  (rest.head? = some mark ∧ (rest.drop 1).head? ≠ some mark) ∨ rest.head? = some '!'

instance (mark : Char) (rest : List Char) : Decidable (documents mark rest) :=
  inferInstanceAs (Decidable (_ ∨ _))

private theorem documents_bracketed {mark : Char} (other : mark ≠ '>') (rest : List Char) :
    documents mark (bracketed rest) ↔ documents mark rest := by
  obtain _ | ⟨c, _ | ⟨d, rest⟩⟩ := rest
  · simp [documents, Ne.symm other]
  · simp [documents, Ne.symm other]
  · simp [documents]

private theorem trivia_line (rest : List Char) : trivia? ('/' :: '/' :: rest) =
    if documents '/' rest then
      if hasBareReturn (lineText (rest.drop 1)) then none
      else some (documentation (rest.head? = some '!'), (rest.drop 1).dropWhile (· != '\n'))
    else some ([], rest.dropWhile (· != '\n')) := rfl

private theorem trivia_block (rest : List Char) : trivia? ('/' :: '*' :: rest) =
    if rest.take 2 = ['*', '/'] then some ([], rest.drop 2)
    else (dropBlock? 1 rest).bind fun behind =>
      if documents '*' rest then
        if hasBareReturn ((rest.drop 1).take (rest.length - 1 - behind.length - 2)) then none
        else some (documentation (rest.head? = some '!'), behind)
      else some ([], behind) := by
  unfold trivia?
  split
  · rename_i same
    cases same
  · rename_i same
    cases same
    cases dropBlock? 1 rest <;> rfl
  · rename_i other same
    cases same
    exact (other rest rfl rfl).elim
  · rename_i same
    cases same

private theorem trivia_other {c : Char} {rest : List Char}
    (other : startsComment (c :: rest) = false) :
    trivia? (c :: rest) = if isBlank c then some ([], rest) else none := by
  unfold trivia?
  split
  · rename_i same
    cases same
    cases other
  · rename_i same
    cases same
    cases other
  · rename_i same
    cases same
    rfl
  · rename_i same
    cases same

private theorem startsComment_bracketed (text : List Char) :
    startsComment (bracketed text) = startsComment text := by
  obtain _ | ⟨c, _ | ⟨d, rest⟩⟩ := text
  · rfl
  · by_cases slash : c = '/' <;> simp_all [startsComment]
  · simp only [startsComment, bracketed_cons]
    split <;> simp_all

private theorem trivia_bracketed_block (rest : List Char) : trivia? ('/' :: '*' :: bracketed rest) =
    (trivia? ('/' :: '*' :: rest)).map fun (found, rest) => (found, bracketed rest) := by
  rw [trivia_block, trivia_block, dropBlock_bracketed]
  by_cases closed : rest.take 2 = ['*', '/']
  · obtain _ | ⟨c, _ | ⟨d, rest⟩⟩ := rest
    · cases closed
    · cases closed
    · have closed' : (bracketed (c :: d :: rest)).take 2 = ['*', '/'] := closed
      rw [if_pos closed, if_pos closed']
      rfl
  · have closed' : (bracketed rest).take 2 ≠ ['*', '/'] := by
      obtain _ | ⟨c, _ | ⟨d, rest⟩⟩ := rest
      · simp
      · simp
      · exact closed
    rw [if_neg closed, if_neg closed']
    cases found : dropBlock? 1 rest with
    | none => rfl
    | some behind =>
      obtain _ | ⟨c, rest⟩ := rest
      · cases found
      simp only [Option.map_some, Option.bind_some, documents_bracketed (show '*' ≠ '>' by decide)]
      have same : ((bracketed (c :: rest)).drop 1).take ((bracketed (c :: rest)).length - 1 -
          (bracketed behind).length - 2) =
            ((c :: rest).drop 1).take ((c :: rest).length - 1 - behind.length - 2) := by
        have count : (bracketed (c :: rest)).length - 1 - (bracketed behind).length - 2 =
            (c :: rest).length - 1 - behind.length - 2 := by
          simp only [length_bracketed]
          omega
        rw [count]
        apply List.take_append_of_le_length
        simp only [List.length_cons]
        omega
      rw [same]
      split
      · split <;> rfl
      · rfl

private theorem trivia_bracketed_line {rest : List Char} (broken : '\n' ∈ rest) :
    trivia? ('/' :: '/' :: bracketed rest) =
      (trivia? ('/' :: '/' :: rest)).map fun (found, rest) => (found, bracketed rest) := by
  rw [trivia_line, trivia_line]
  by_cases documented : documents '/' rest
  · rw [if_pos documented, if_pos ((documents_bracketed (by decide) rest).mpr documented)]
    obtain ⟨c, rest, rfl⟩ := List.exists_cons_of_ne_nil (List.ne_nil_of_mem broken)
    have later : '\n' ∈ rest := by
      apply (List.mem_cons.mp broken).resolve_left
      rintro rfl
      simp [documents] at documented
    simp only [bracketed_cons, List.drop_one, List.tail_cons, List.head?_cons]
    rw [lineText_bracketed later, (line_bracketed later).2]
    split <;> rfl
  · rw [if_neg documented, if_neg (mt (documents_bracketed (by decide) rest).mp documented),
      (line_bracketed broken).2]
    rfl

private theorem trivia_bracketed (closed : ¬OpenLine text) : trivia? (bracketed text) =
    (trivia? text).map fun (found, rest) => (found, bracketed rest) := by
  by_cases comment : startsComment text = true
  · unfold startsComment at comment
    split at comment
    · rename_i rest
      exact trivia_bracketed_line (by_contra fun missing => closed ⟨rest, rfl, missing⟩)
    · exact trivia_bracketed_block _
    · cases comment
  · have comment := Bool.eq_false_iff.mpr comment
    cases text with
    | nil => rfl
    | cons c rest =>
      have comment' : startsComment (c :: bracketed rest) = false :=
        (startsComment_bracketed (c :: rest)).trans comment
      rw [bracketed_cons, trivia_other comment', trivia_other comment]
      split <;> rfl

/-- An open line comment takes the bracket with it. -/
theorem trivia_openLine (opened : OpenLine text) : trivia? (bracketed text) = trivia? text ∧
    ∀ found behind, trivia? text = some (found, behind) → behind = [] := by
  obtain ⟨rest, rfl, unbroken⟩ := opened
  have whole {rest : List Char} (unbroken : '\n' ∉ rest) : rest.takeWhile (· != '\n') = rest ∧
      rest.dropWhile (· != '\n') = [] := by
    have all : ∀ c ∈ rest, (c != '\n') = true := by
      intro c member
      rw [bne_iff_ne]
      rintro rfl
      exact unbroken member
    exact ⟨List.takeWhile_eq_self_iff.mpr all, List.dropWhile_eq_nil_iff.mpr all⟩
  have longer {rest : List Char} (unbroken : '\n' ∉ rest) : '\n' ∉ bracketed rest := by
    simp [bracketed, unbroken]
  rw [bracketed_cons, bracketed_cons, trivia_line, trivia_line]
  by_cases documented : documents '/' rest
  · rw [if_pos documented, if_pos ((documents_bracketed (by decide) rest).mpr documented)]
    obtain _ | ⟨c, rest⟩ := rest
    · simp [documents] at documented
    have unbroken := (List.mem_cons.not.mp unbroken |> not_or.mp).2
    simp only [bracketed_cons, List.drop_one, List.tail_cons, List.head?_cons, lineText,
      (whole unbroken).1, (whole unbroken).2, (whole (longer unbroken)).1,
      (whole (longer unbroken)).2, Nat.lt_irrefl, false_and, if_false, hasBareReturn_bracketed]
    refine ⟨rfl, ?_⟩
    intro found behind read
    split at read
    · cases read
    · cases read
      rfl
  · rw [if_neg documented, if_neg (mt (documents_bracketed (by decide) rest).mp documented),
      (whole unbroken).2, (whole (longer unbroken)).2]
    refine ⟨rfl, ?_⟩
    intro found behind read
    cases read
    rfl

/-! ## Tokens -/

private theorem isPrefixOf_bracketed {front : List Char} (other : '>' ∉ front) (text : List Char) :
    front.isPrefixOf (bracketed text) = front.isPrefixOf text := by
  induction front generalizing text with
  | nil => simp
  | cons c more ih =>
    simp only [List.mem_cons, not_or] at other
    cases text with
    | nil => simp [List.isPrefixOf, Ne.symm other.1]
    | cons d rest => simp [List.isPrefixOf, ih other.2]

private theorem startsQuotedLiteral_bracketed (text : List Char) :
    startsQuotedLiteral (bracketed text) = startsQuotedLiteral text := by
  unfold startsQuotedLiteral
  simp [isPrefixOf_bracketed]

theorem takeAnyWord_plain (plain : ∀ rest, text ≠ 'r' :: '#' :: rest) :
    takeAnyWord? text = (takeWord? text).map fun (word, rest) => (String.ofList word, rest) := by
  unfold takeAnyWord?
  split
  · exact absurd rfl (plain _)
  · cases takeWord? text <;> rfl

private theorem takeAnyWord_bracketed (text : List Char) : takeAnyWord? (bracketed text) =
    (takeAnyWord? text).map fun (word, rest) => (word, bracketed rest) := by
  by_cases raw : ∃ rest, text = 'r' :: '#' :: rest
  · obtain ⟨rest, rfl⟩ := raw
    simp only [bracketed_cons, takeAnyWord?, takeWord_bracketed]
    cases takeWord? rest with
    | none => rfl
    | some found =>
      dsimp only [Option.map_some]
      split <;> rfl
  · have plain : ∀ rest, text ≠ 'r' :: '#' :: rest := not_exists.mp raw
    have plain' : ∀ rest, bracketed text ≠ 'r' :: '#' :: rest := by
      intro rest same
      obtain _ | ⟨c, _ | ⟨d, more⟩⟩ := text
      · cases same
      · cases same
      · cases same
        exact plain _ rfl
    rw [takeAnyWord_plain plain, takeAnyWord_plain plain', takeWord_bracketed]
    cases takeWord? text <;> rfl

private theorem startsLifetime_bracketed (text : List Char) :
    startsLifetime (bracketed text) = startsLifetime text := by
  unfold startsLifetime
  rw [takeAnyWord_bracketed, isPrefixOf_bracketed (by decide)]
  cases takeAnyWord? text with
  | none => rfl
  | some found =>
    obtain ⟨word, rest⟩ := found
    cases rest <;> rfl

private theorem startsPunctuation_bracketed {c : Char} {rest : List Char} :
    startsPunctuation (bracketed (c :: rest)) = startsPunctuation (c :: rest) := by
  unfold startsPunctuation
  rw [startsComment_bracketed]
  rfl

private theorem lifetime_bracketed {tree : Tree} {behind rest : List Char}
    (read : leaf? ('\'' :: rest) = some (tree, behind)) (plain : literal? ('\'' :: rest) = none) :
    leaf? ('\'' :: bracketed rest) = some (tree, bracketed behind) := by
  have plain' : literal? ('\'' :: bracketed rest) = none := by
    rw [← bracketed_cons, literal_bracketed, plain]
    rfl
  unfold leaf? at read ⊢
  rw [plain] at read
  rw [plain']
  dsimp only at read ⊢
  rw [startsLifetime_bracketed, literal_bracketed, takeAnyWord_bracketed, startsQuotedLiteral_bracketed]
  revert read
  cases startsLifetime rest with
  | false => rintro ⟨⟩
  | true =>
    cases literal? rest with
    | some found =>
      rintro ⟨⟩
      rfl
    | none =>
      cases takeAnyWord? rest with
      | none =>
        rintro ⟨⟩
        rfl
      | some found =>
        dsimp only [Option.map_some, Option.map_none]
        cases startsQuotedLiteral rest with
        | true => rintro ⟨⟩
        | false =>
          rintro ⟨⟩
          rfl

/-- One token at the front: it is the same in front of the bracket, but the last mark becomes
joint. -/
theorem leaf_bracketed {tree : Tree} {behind : List Char} (read : leaf? text = some (tree, behind)) :
    leaf? (bracketed text) = some (tree, bracketed behind) ∨
      behind = [] ∧ ∃ c, tree = .mark c false ∧ leaf? (bracketed text) = some (.mark c true, ['>']) := by
  cases plain : literal? text with
  | some found =>
    unfold leaf? at read ⊢
    rw [literal_bracketed, plain]
    rw [plain] at read
    cases read
    exact .inl rfl
  | none =>
    obtain _ | ⟨c, rest⟩ := text
    · cases read
    by_cases quote : c = '\''
    · subst quote
      exact .inl (lifetime_bracketed read plain)
    have apart : (c == '\'') = false := beq_false_of_ne quote
    unfold leaf? at read ⊢
    rw [literal_bracketed, plain, startsPunctuation_bracketed, takeAnyWord_bracketed,
      startsQuotedLiteral_bracketed]
    rw [plain] at read
    simp only [Option.map_none, bracketed_cons, apart] at read ⊢
    revert read
    cases startsPunctuation (c :: rest) with
    | true =>
      rintro ⟨⟩
      obtain _ | ⟨d, behind⟩ := behind
      · exact .inr ⟨rfl, c, rfl, rfl⟩
      · rw [startsPunctuation_bracketed]
        exact .inl rfl
    | false =>
      cases startsQuotedLiteral (c :: rest) with
      | true => rintro ⟨⟩
      | false =>
        intro read
        obtain ⟨found, taken, ⟨⟩⟩ := Option.map_eq_some_iff.mp read
        rw [taken]
        exact .inl rfl

/-! ## The whole text -/

/-- A line comment is open at the end of the text. -/
def OpenEnd (text : List Char) : Prop := ∃ rest, Reached text rest ∧ OpenLine rest

private theorem front_unique {found found' : List Lexeme} {behind behind' : List Char}
    (front : Front text found behind) (front' : Front text found' behind') :
    found = found' ∧ behind = behind' := by
  cases front <;> cases front' <;> simp_all

private theorem openEnd_front {found : List Lexeme} {behind : List Char}
    (front : Front text found behind)
    (closed : ¬OpenLine text) : OpenEnd text ↔ OpenEnd behind := by
  constructor
  · rintro ⟨rest, reached, opened⟩
    cases reached with
    | here => exact absurd opened closed
    | next front' later =>
      obtain ⟨rfl, rfl⟩ := front_unique front front'
      exact ⟨rest, later, opened⟩
  · rintro ⟨rest, reached, opened⟩
    exact ⟨rest, .next front reached, opened⟩

/-- The lexemes with the bracket behind them, which may be joint with a mark in front of it. -/
def Behind (lexemes longer : List Lexeme) : Prop :=
  longer = lexemes ++ [.leaf closing] ∨ ∃ front c, lexemes = front ++ [.leaf (.mark c false)] ∧
    longer = front ++ [.leaf (.mark c true), .leaf closing]

theorem Behind.prefix {lexemes longer : List Lexeme} (more : List Lexeme)
    (behind : Behind lexemes longer) : Behind (more ++ lexemes) (more ++ longer) := by
  rcases behind with rfl | ⟨front, c, rfl, rfl⟩
  · exact .inl (List.append_assoc ..).symm
  · exact .inr ⟨more ++ front, c, (List.append_assoc ..).symm, (List.append_assoc ..).symm⟩

theorem lexemes_nil (fuel : Nat) : lexemes? fuel [] = some [] := by cases fuel <;> rfl

private theorem front_closing : Front ['>'] [.leaf closing] [] :=
  .leaf rfl rfl rfl rfl

/-- The lexer takes what stands at the front of the text. -/
theorem lexemes_front {fuel : Nat} {found : List Lexeme} {behind : List Char}
    (front : Front text found behind) :
    lexemes? (fuel + 1) text = (lexemes? fuel behind).map (found ++ ·) := by
  cases front with
  | @trivia _ found behind skipped =>
    obtain _ | ⟨c, rest⟩ := text
    · cases skipped
    simp only [lexemes?, skipped]
  | errorMark solid marked => simp [lexemes?, solid, marked]
  | bracket solid unmarked found => simp [lexemes?, solid, unmarked, found]
  | leaf solid unmarked plain read => simp [lexemes?, solid, unmarked, plain, read]

private theorem solid_bracketed (solid : trivia? text = none) : trivia? (bracketed text) = none := by
  by_cases opened : OpenLine text
  · rw [(trivia_openLine opened).1, solid]
  · rw [trivia_bracketed opened, solid]
    rfl

/-- One step of the lexer in a text with the bracket behind it. -/
theorem front_bracketed {found : List Lexeme} {behind : List Char} (front : Front text found behind)
    (closed : ¬OpenLine text) :
    Front (bracketed text) found (bracketed behind) ∨
      behind = [] ∧ ∃ c, found = [.leaf (.mark c false)] ∧
        Front (bracketed text) [.leaf (.mark c true)] ['>'] := by
  have apart : '>' ∉ errorText := by decide
  cases front with
  | trivia skipped =>
    refine .inl (.trivia ?_)
    rw [trivia_bracketed closed, skipped]
    rfl
  | @errorMark c rest solid marked =>
    have long : errorText.length ≤ (c :: rest).length :=
      (List.isPrefixOf_iff_prefix.mp marked).length_le
    left
    rw [← drop_bracketed long]
    exact .errorMark (solid_bracketed solid) ((isPrefixOf_bracketed apart (c :: rest)).trans marked)
  | @bracket c rest lexeme solid unmarked found =>
    exact .inl (.bracket (solid_bracketed solid)
      ((isPrefixOf_bracketed apart _).trans unmarked) found)
  | @leaf c rest tree behind solid unmarked plain read =>
    have solid' := solid_bracketed solid
    have unmarked' := (isPrefixOf_bracketed apart (c :: rest)).trans unmarked
    rcases leaf_bracketed read with same | ⟨rfl, d, rfl, joint⟩
    · exact .inl (.leaf solid' unmarked' plain same)
    · exact .inr ⟨rfl, d, rfl, .leaf solid' unmarked' plain joint⟩

private theorem not_openEnd_nil : ¬OpenEnd [] := by
  rintro ⟨rest, reached, opened⟩
  cases reached with
  | here =>
    obtain ⟨_, same, _⟩ := opened
    cases same
  | next front later =>
    cases front with
    | trivia skipped => cases skipped

/-- Nothing but a comment begins with two slashes. -/
theorem trivia_of_openLine {found : List Lexeme} {behind : List Char} (opened : OpenLine text)
    (front : Front text found behind) : trivia? text = some (found, behind) := by
  obtain ⟨rest, rfl, _⟩ := opened
  cases front with
  | trivia skipped => exact skipped
  | errorMark solid marked => cases marked
  | bracket solid unmarked found => cases found
  | leaf solid unmarked plain read => cases read

/-- The lexemes of a text with the bracket behind it. -/
theorem lexemes_bracketed {fuel : Nat} {lexemes : List Lexeme}
    (ran : lexemes? fuel text = some lexemes) :
    (OpenEnd text ∧ lexemes? (fuel + 1) (bracketed text) = some lexemes) ∨
      ¬OpenEnd text ∧ ∃ longer, lexemes? (fuel + 1) (bracketed text) = some longer ∧
        Behind lexemes longer := by
  induction fuel generalizing text lexemes with
  | zero =>
    cases text with
    | nil =>
      cases ran
      exact .inr ⟨not_openEnd_nil, _, lexemes_front front_closing, .inl rfl⟩
    | cons c rest => cases ran
  | succ fuel ih =>
    obtain _ | ⟨c, rest⟩ := text
    · cases ran
      refine .inr ⟨not_openEnd_nil, [.leaf closing], ?_, .inl rfl⟩
      rw [bracketed_nil, lexemes_front front_closing]
      rfl
    obtain ⟨found, behind, more, front, later, rfl⟩ := lexemes_cons ran
    by_cases opened : OpenLine (c :: rest)
    · have skipped := trivia_of_openLine opened front
      obtain ⟨same, taken⟩ := trivia_openLine opened
      obtain rfl := taken _ _ skipped
      rw [lexemes_nil] at later
      cases later
      exact .inl ⟨⟨_, .here _, opened⟩, lexemes_front (.trivia (same.trans skipped))⟩
    · rcases front_bracketed front opened with front' | ⟨rfl, d, rfl, front'⟩
      · rw [lexemes_front front', openEnd_front front opened]
        rcases ih later with ⟨openEnd, ran'⟩ | ⟨closed, longer, ran', behind⟩
        · exact .inl ⟨openEnd, by rw [ran']; rfl⟩
        · exact .inr ⟨closed, found ++ longer, by rw [ran']; rfl, behind.prefix found⟩
      · rw [lexemes_nil] at later
        cases later
        rw [lexemes_front front', openEnd_front front opened, lexemes_front front_closing, lexemes_nil]
        exact .inr ⟨not_openEnd_nil, _, rfl, .inr ⟨[], d, rfl, rfl⟩⟩

/-! ## Trees -/

theorem nest_append {lexemes : List Lexeme} {pending : List (Delimiter × List Tree)}
    {level trees : List Tree} (matched : nest lexemes pending level = some trees) (more : List Lexeme) :
    nest (lexemes ++ more) pending level = nest more [] trees.reverse := by
  fun_induction nest lexemes pending level with
  | case1 level =>
    cases matched
    simp
  | case2 => cases matched
  | case3 pending level tree rest ih => exact ih matched
  | case4 pending level delimiter rest ih => exact ih matched
  | case5 => cases matched
  | case6 level delimiter rest outer pending ih =>
    simp only [List.cons_append, nest, if_true]
    exact ih matched
  | case7 => cases matched

private theorem nest_last {lexemes : List Lexeme} {pending : List (Delimiter × List Tree)}
    {level trees : List Tree} {tree : Tree}
    (matched : nest (lexemes ++ [.leaf tree]) pending level = some trees) :
    ∃ front, nest lexemes pending level = some front ∧ trees = front ++ [tree] := by
  fun_induction nest lexemes pending level with
  | case1 level =>
    cases matched
    exact ⟨_, rfl, by simp⟩
  | case2 => cases matched
  | case3 pending level tree rest ih => exact ih matched
  | case4 pending level delimiter rest ih => exact ih matched
  | case5 => cases matched
  | case6 level delimiter rest outer pending ih =>
    simp only [List.cons_append, nest, if_true] at matched
    exact ih matched
  | case7 pending level opened delimiter rest outer different =>
    simp only [List.cons_append, nest, different, if_false] at matched
    cases matched

private theorem followed_append {trees longer : List Tree} (front : List Tree)
    (followed : Followed trees longer)
    (occupied : trees ≠ []) : Followed (front ++ trees) (front ++ longer) := by
  obtain ⟨second, rest, rfl⟩ := List.exists_cons_of_ne_nil occupied
  induction front with
  | nil => exact followed
  | cons first front ih =>
    cases front with
    | nil => exact .next first second followed
    | cons next front => exact .next first next ih

/-- The bracket follows the trees, unless a minus sign ends them. -/
theorem trees_bracketed {lexemes longer : List Lexeme} {trees : List Tree}
    (matched : nest lexemes [] [] = some trees) (behind : Behind lexemes longer) :
    (∃ front joint, trees = front ++ [.mark '-' joint]) ∨
      ∃ trees', nest longer [] [] = some trees' ∧ Followed trees trees' := by
  rcases behind with rfl | ⟨front, c, rfl, rfl⟩
  · have closed : nest (lexemes ++ [.leaf closing]) [] [] = some (trees ++ [closing]) := by
      rw [nest_append matched]
      simp [nest]
    rcases List.eq_nil_or_concat' trees with rfl | ⟨front, tree, rfl⟩
    · exact .inr ⟨_, closed, .here⟩
    · by_cases minus : ∃ joint, tree = .mark '-' joint
      · obtain ⟨joint, rfl⟩ := minus
        exact .inl ⟨front, joint, rfl⟩
      · refine .inr ⟨_, closed, ?_⟩
        rw [List.append_assoc]
        refine followed_append front ?_ (List.cons_ne_nil _ _)
        cases tree with
        | mark c joint => exact .mark c joint joint fun same => minus ⟨joint, by rw [same]⟩
        | _ => exact .tree _ (by simp)
  · obtain ⟨trees', matched', rfl⟩ := nest_last matched
    by_cases minus : c = '-'
    · exact .inl ⟨trees', false, by rw [minus]⟩
    · refine .inr ⟨trees' ++ [.mark c true, closing], ?_, ?_⟩
      · rw [nest_append matched']
        simp [nest]
      · exact followed_append _ (.mark c false true minus) (List.cons_ne_nil _ _)

/-- No type has a minus sign at its end. -/
theorem not_minus {depth : Nat} {form : TypeForm} {front : List Tree} {joint : Bool}
    (whole : (toDepth depth).type.run (front ++ [.mark '-' joint]) = some (form, [])) : False := by
  have minus : Followed (front ++ [.mark '-' joint]) (front ++ [.mark '-' joint]) :=
    followed_append front (.minus joint) (List.cons_ne_nil _ _)
  obtain ⟨left, found, followed⟩ := (steady_toDepth depth).type true minus form [] whole
  obtain ⟨⟩ := whole.symm.trans found
  cases followed

/-- The trees of a type with the bracket behind its text. -/
theorem type_bracketed {fuel depth : Nat} {trees : List Tree} {form : TypeForm}
    (lexed : (lexemes? fuel text).bind (nest · [] []) = some trees)
    (whole : (toDepth depth).type.run trees = some (form, [])) :
    ∃ trees', (lexemes? (fuel + 1) (bracketed text)).bind (nest · [] []) = some trees' ∧
      (OpenEnd text ∧ trees' = trees ∨ ¬OpenEnd text ∧ Followed trees trees') := by
  obtain ⟨lexemes, ran, matched⟩ := Option.bind_eq_some_iff.mp lexed
  rcases lexemes_bracketed ran with ⟨opened, ran'⟩ | ⟨closed, longer, ran', behind⟩
  · exact ⟨trees, by rw [ran']; exact matched, .inl ⟨opened, rfl⟩⟩
  · rcases trees_bracketed matched behind with ⟨front, joint, rfl⟩ | ⟨trees', matched', followed⟩
    · exact (not_minus whole).elim
    · exact ⟨trees', by rw [ran']; exact matched', .inr ⟨closed, followed⟩⟩

end NativeThunks.BracketedTexts
