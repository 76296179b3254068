import NativeThunks.Json.Decode
import NativeThunks.Proofs.JsonTexts

/-! Reading any text of a JSON value gives the tree of the value, and leaves what stands behind the
value. -/
namespace NativeThunks.JsonReading
open Json JsonTexts

private theorem escaped_letter {c e : Char} (escape : escaped? e = some c) : e ≠ 'u' := by
  rintro rfl
  cases escape

private theorem leading_not_trailing {n : Nat} (leading : isLeading n = true) :
    isTrailing n = false := by
  simp only [isLeading, isTrailing, Bool.and_eq_true, decide_eq_true_eq, Bool.and_eq_false_iff,
    decide_eq_false_iff_not] at *
  omega

private theorem decodeQuote_spelling {text spelling : List Char}
    (spelled : QuoteSpelling text spelling)
    (rest : List Char) : decodeQuote (spelling ++ '"' :: rest) = .ok text := by
  induction spelled with
  | nil => rfl
  | plain printable unquoted unescaped behind ih =>
    have above : ¬ _ < ' ' := Char.not_lt.mpr printable
    simp [decodeQuote, unescaped, above, ih, Except.map]
  | letter escape behind ih =>
    have other := escaped_letter escape
    simp [decodeQuote, other, escape, ih, Except.map]
  | unit value whole behind ih => simp [decodeQuote, value, whole, ih, Except.map]
  | pair first leading second trailing behind ih =>
    simp [decodeQuote, first, second, leading, trailing, leading_not_trailing leading, ih,
      Except.map]

private theorem skipQuote_spelling {text spelling : List Char} (spelled : QuoteSpelling text spelling)
    (rest : List Char) : skipQuote (spelling ++ '"' :: rest) = .ok rest := by
  induction spelled with
  | nil => rfl
  | plain printable unquoted unescaped behind ih =>
    have above : ¬ _ < ' ' := Char.not_lt.mpr printable
    simp [skipQuote, unescaped, above, ih]
  | letter escape behind ih =>
    have other := escaped_letter escape
    simp [skipQuote, other, escape, ih]
  | unit value whole behind ih => simp [skipQuote, value, ih]
  | pair first leading second trailing behind ih => simp [skipQuote, first, second, ih]

private theorem takeQuote_spelling {text spelling : List Char} (spelled : QuoteSpelling text spelling)
    (rest : List Char) :
    takeQuote (spelling ++ '"' :: rest) = .ok (.ok (String.ofList text), rest) := by
  simp [takeQuote, skipQuote_spelling spelled, decodeQuote_spelling spelled, Except.map]

/-- A text whose start cannot continue a number. -/
def Stops (text : List Char) : Prop :=
  ∀ c, text.head? = some c → c.isDigit = false ∧ c ≠ '.' ∧ c ≠ 'e' ∧ c ≠ 'E'

private theorem toDigits_isDigit {n : Nat} :
    ∀ c ∈ Nat.toDigits 10 n, c.isDigit = true := by
  intro _ member
  exact Nat.isDigit_of_mem_toDigits (by decide) (by decide) member

private theorem digitChar_ne_zero : ∀ n < 10, n ≠ 0 → Nat.digitChar n ≠ '0' := by decide

/-- No number but zero is written with a zero in front. -/
theorem toDigits_head_ne_zero {n : Nat} (positive : n ≠ 0) :
    (Nat.toDigits 10 n).head? ≠ some '0' := by
  induction n using Nat.strongRecOn with
  | ind n ih =>
    rw [Nat.toDigits_eq_if (by decide)]
    split
    · simpa using digitChar_ne_zero n ‹_› positive
    · have shorter := ih (n / 10) (by omega) (by omega)
      obtain ⟨first, rest, digits⟩ := List.exists_cons_of_ne_nil (Nat.toDigits_ne_nil (n := n / 10))
      rw [digits] at shorter ⊢
      exact shorter

private theorem toDigits_zero_alone (n : Nat) :
    ¬((Nat.toDigits 10 n).head? = some '0' ∧ 1 < (Nat.toDigits 10 n).length) := by
  rintro ⟨zero, more⟩
  by_cases positive : n = 0
  · subst positive
    exact absurd more (by decide)
  · exact toDigits_head_ne_zero positive zero

/-- Digits are added up as long as their value fits. -/
theorem accumulate_fits {digits : List Char} {total : Nat}
    (fits : Nat.ofDigitChars 10 digits total < Nat.pow 2 64) :
    accumulate total digits = (Nat.ofDigitChars 10 digits total, []) := by
  induction digits generalizing total with
  | nil => simp [accumulate]
  | cons c rest ih =>
    have next : 10 * total + (c.toNat - '0'.toNat) = total * 10 + digitValue c := by
      rw [Nat.mul_comm, digitValue]
    rw [Nat.ofDigitChars_cons, next] at fits ⊢
    have below : total * 10 + digitValue c < Nat.pow 2 64 := by
      rw [Nat.ofDigitChars_eq_ofDigitChars_zero] at fits
      have grows := Nat.le_mul_of_pos_left (total * 10 + digitValue c)
        (Nat.pow_pos (n := rest.length) (show 0 < 10 by decide))
      omega
    rw [accumulate, if_pos below, ih fits]

private theorem takeNumber_toDigits (n : Nat) {rest : List Char} (stops : Stops rest) :
    takeNumber (Nat.toDigits 10 n ++ rest) = .ok (⟨Nat.toDigits 10 n, none, none⟩, rest) := by
  have whole : (Nat.toDigits 10 n ++ rest).takeWhile Char.isDigit = Nat.toDigits 10 n := by
    rw [List.takeWhile_append_of_pos toDigits_isDigit]
    cases rest with
    | nil => simp
    | cons c rest => simp [(stops c rfl).1]
  have behind : (Nat.toDigits 10 n ++ rest).dropWhile Char.isDigit = rest := by
    rw [List.dropWhile_append_of_pos toDigits_isDigit]
    cases rest with
    | nil => rfl
    | cons c rest => simp [(stops c rfl).1]
  have exponent : takeExponent? rest = .ok (none, rest) := by
    cases rest with
    | nil => rfl
    | cons c rest =>
      obtain ⟨_, _, small, large⟩ := stops c rfl
      simp [takeExponent?, small, large]
  have occupied : (Nat.toDigits 10 n).isEmpty = false := by simp
  unfold takeNumber
  simp only [whole, behind, occupied, Bool.false_eq_true, if_false, if_neg (toDigits_zero_alone n)]
  cases rest with
  | nil => rfl
  | cons c rest =>
    have noPoint := (stops c rfl).2.1
    simp [noPoint, exponent, bind, Except.bind]

private theorem readNumber_toDigits (first : Char) {n : Nat} (small : n < Nat.pow 2 64)
    {rest : List Char}
    (stops : Stops rest) :
    readNumber first false (Nat.toDigits 10 n ++ rest) = (.number (.ok (.whole n)), rest) := by
  have digits := Nat.ofDigitChars_toDigits (n := n) (b := 10) (by decide) (by decide)
  have sum : accumulate 0 (Nat.toDigits 10 n) = (n, []) := by
    rw [accumulate_fits (digits.symm ▸ small), digits]
  have value : NumberText.value ⟨Nat.toDigits 10 n, none, none⟩ false = .ok (.whole n) := by
    simp [NumberText.value, sum]
  rw [readNumber, takeNumber_toDigits n stops]
  simp only [value]

variable {token : Token} {more : List Token} {text : List Char}

private theorem space_stops {c : Char} (space : isSpace c = true) :
    c.isDigit = false ∧ c ≠ '.' ∧ c ≠ 'e' ∧ c ≠ 'E' := by
  simp only [isSpace, Bool.or_eq_true, beq_iff_eq] at space
  rcases space with ((rfl | rfl) | rfl) | rfl <;> decide

/-- A token begins with a character that is no space, and that closes no list unless the token
does. -/
theorem spelling_head {spelling : List Char} (spelled : token.Spelling spelling) :
    ∃ c rest, spelling = c :: rest ∧ isSpace c = false ∧ (token ≠ .closeList → c ≠ ']') := by
  cases spelled with
  | whole value =>
    obtain ⟨c, rest, digits⟩ :=
      List.exists_cons_of_ne_nil (Nat.toDigits_ne_nil (n := value) (b := 10))
    have digit := toDigits_isDigit c (digits ▸ List.mem_cons_self)
    refine ⟨c, rest, digits, ?_, ?_⟩
    · cases space : isSpace c with
      | false => rfl
      | true =>
        rw [(space_stops space).1] at digit
        cases digit
    · rintro _ rfl
      exact absurd digit (by decide)
  | closeList => exact ⟨_, _, rfl, rfl, fun other => absurd rfl other⟩
  | _ => exact ⟨_, _, rfl, rfl, fun _ => by decide⟩

private theorem dropSpace_blank {space : List Char} (blank : ∀ c ∈ space, isSpace c = true)
    (rest : List Char) : dropSpace (space ++ rest) = dropSpace rest :=
  List.dropWhile_append_of_pos blank

/-- Behind the space in front of a token stands its spelling. -/
theorem dropSpace_laid (laid : Laid (token :: more) text) :
    ∃ spelling rest, token.Spelling spelling ∧ dropSpace text = spelling ++ rest ∧
      Laid more rest := by
  cases laid with
  | @next _ _ space spelling rest blank spelled behind =>
    obtain ⟨c, tail, rfl, solid, _⟩ := spelling_head spelled
    refine ⟨_, rest, spelled, ?_, behind⟩
    rw [List.append_assoc, dropSpace_blank blank]
    simp [dropSpace, solid]

/-- Space in front makes no difference. -/
theorem laid_dropSpace (laid : Laid (token :: more) text) :
    Laid (token :: more) (dropSpace text) := by
  obtain ⟨spelling, rest, spelled, dropped, behind⟩ := dropSpace_laid laid
  rw [dropped]
  exact .next blank_nil spelled behind

/-- What may stand behind a value: the end of the text, a comma, or the end of a list or object. -/
def Ends (more : List Token) : Prop :=
  ∀ token, more.head? = some token → token = .comma ∨ token = .closeList ∨ token = .closeObject

private theorem stops_of_laid (ends : Ends more) (laid : Laid more text) : Stops text := by
  intro c first
  cases laid with
  | done blank => exact space_stops (blank c (List.mem_of_mem_head? first))
  | @next token _ space spelling rest blank spelled behind =>
    cases space with
    | cons d space =>
      obtain rfl : d = c := Option.some.inj first
      exact space_stops (blank d List.mem_cons_self)
    | nil =>
      rcases ends token rfl with rfl | rfl | rfl <;> cases spelled <;>
        (obtain rfl := Option.some.inj first; decide)

section
variable {fuel : Nat}

private theorem readValue_digit {c : Char} {rest : List Char} (digit : c.isDigit = true)
    (dropped : dropSpace text = c :: rest) :
    readValue (fuel + 1) text = readNumber c false (c :: rest) := by
  rw [readValue, dropped]
  split
  case h_9 c' rest' _ _ _ _ _ _ _ same =>
    obtain ⟨rfl, rfl⟩ := List.cons.inj same
    rw [if_pos digit]
  case h_1 same => cases same
  all_goals
    rename_i same
    cases same
    exact absurd digit (by decide)

private theorem readValue_null (laid : Laid (.null :: more) text) :
    ∃ rest, readValue (fuel + 1) text = (.null, rest) ∧ Laid more rest := by
  obtain ⟨_, rest, spelled, dropped, behind⟩ := dropSpace_laid laid
  cases spelled
  exact ⟨rest, by rw [readValue, dropped]; rfl, behind⟩

private theorem readValue_bool {value : Bool} (laid : Laid (.bool value :: more) text) :
    ∃ rest, readValue (fuel + 1) text = (.bool value, rest) ∧ Laid more rest := by
  obtain ⟨_, rest, spelled, dropped, behind⟩ := dropSpace_laid laid
  cases spelled with
  | yes => exact ⟨rest, by rw [readValue, dropped]; rfl, behind⟩
  | no => exact ⟨rest, by rw [readValue, dropped]; rfl, behind⟩

private theorem readValue_whole {value : Nat} (small : value < Nat.pow 2 64) (ends : Ends more)
    (laid : Laid (.whole value :: more) text) :
    ∃ rest, readValue (fuel + 1) text = (.number (.ok (.whole value)), rest) ∧ Laid more rest := by
  obtain ⟨_, rest, spelled, dropped, behind⟩ := dropSpace_laid laid
  cases spelled
  obtain ⟨c, tail, digits⟩ :=
    List.exists_cons_of_ne_nil (Nat.toDigits_ne_nil (n := value) (b := 10))
  have digit := toDigits_isDigit c (digits ▸ List.mem_cons_self)
  have number := readNumber_toDigits c small (stops_of_laid ends behind)
  rw [digits, List.cons_append] at dropped number
  exact ⟨rest, by rw [readValue_digit digit dropped, number], behind⟩

private theorem readValue_text {content : String} (laid : Laid (.text content :: more) text) :
    ∃ rest, readValue (fuel + 1) text = (.string (.ok content), rest) ∧ Laid more rest := by
  obtain ⟨_, rest, spelled, dropped, behind⟩ := dropSpace_laid laid
  cases spelled with
  | @text _ spelling quote =>
    have taken := takeQuote_spelling quote rest
    rw [String.ofList_toList] at taken
    refine ⟨rest, ?_, behind⟩
    rw [readValue, dropped]
    simp [taken]

/-- The first token of a value does not close a list. -/
theorem tokens_head (value : Value) : ∃ token rest, tokens value = token :: rest ∧
    token ≠ .closeList := by
  cases value <;> exact ⟨_, _, by rw [tokens], by simp⟩

private theorem value_head {value : Value} (laid : Laid (tokens value ++ more) text) :
    ∃ c rest, dropSpace text = c :: rest ∧ c ≠ ']' ∧ Laid (tokens value ++ more) (c :: rest) := by
  obtain ⟨token, tail, begins, other⟩ := tokens_head value
  rw [begins, List.cons_append] at laid ⊢
  have same := laid_dropSpace laid
  obtain ⟨spelling, rest, spelled, dropped, _⟩ := dropSpace_laid laid
  obtain ⟨c, inner, rfl, _, notClosed⟩ := spelling_head spelled
  rw [dropped] at same ⊢
  exact ⟨c, inner ++ rest, rfl, notClosed other, same⟩

private theorem readItems_closed {first : Bool} (laid : Laid (.closeList :: more) text) :
    ∃ rest, readItems (fuel + 1) first text = ([], .closed, rest) ∧ Laid more rest := by
  obtain ⟨_, rest, spelled, dropped, behind⟩ := dropSpace_laid laid
  cases spelled
  exact ⟨rest, by rw [readItems, dropped]; rfl, behind⟩

/-- One item is read from behind its comma, if it has one, and then the others. -/
theorem readItems_item (fuel : Nat) {first : Bool} {item : Value}
    (laid : Laid (separator first ++ (tokens item ++ more)) text) :
    ∃ front, Laid (tokens item ++ more) front ∧ ∀ node behind items stop rest,
      readValue fuel front = (node, behind) →
      readItems fuel false behind = (items, stop, rest) →
      readItems (fuel + 1) first text = (node :: items, stop, rest) := by
  cases first with
  | true =>
    obtain ⟨c, tail, dropped, notClosed, front⟩ := value_head laid
    refine ⟨_, front, ?_⟩
    intro node behind items stop rest value others
    rw [readItems, dropped]
    simp [value, others]
  | false =>
    obtain ⟨_, behindComma, spelled, dropped, laidItem⟩ := dropSpace_laid laid
    cases spelled
    obtain ⟨c, tail, droppedItem, notClosed, front⟩ := value_head laidItem
    refine ⟨_, front, ?_⟩
    intro node behind items stop rest value others
    rw [readItems, dropped]
    simp [droppedItem, value, others]

private theorem readFields_closed {first : Bool} (laid : Laid (.closeObject :: more) text) :
    ∃ rest, readFields (fuel + 1) first text = ([], .closed, rest) ∧ Laid more rest := by
  obtain ⟨_, rest, spelled, dropped, behind⟩ := dropSpace_laid laid
  cases spelled
  exact ⟨rest, by rw [readFields, dropped]; rfl, behind⟩

/-- The key of a field and the colon behind it are read, then the value and the other fields. -/
theorem readField_laid (fuel : Nat) {key : String} {tail rest : List Char}
    (spelled : Token.Spelling (.text key) tail) (laid : Laid (.colon :: more) rest) :
    ∃ front, Laid more front ∧ ∀ node behind fields stop left,
      readValue fuel front = (node, behind) →
      readFields fuel false behind = (fields, stop, left) →
      readField (fuel + 1) (tail ++ rest) = ((.ok key, node) :: fields, stop, left) := by
  obtain ⟨_, front, colonSpelled, dropped, behind⟩ := dropSpace_laid laid
  cases colonSpelled
  cases spelled with
  | @text _ spelling quote =>
    have taken := takeQuote_spelling quote rest
    rw [String.ofList_toList] at taken
    refine ⟨front, behind, ?_⟩
    intro node behind fields stop left value others
    simp [readField, taken, dropped, value, others]

/-- One field is read from behind its comma, if it has one, and then the others. -/
theorem readFields_field (fuel : Nat) {first : Bool} {key : String}
    (laid : Laid (separator first ++ (.text key :: .colon :: more)) text) :
    ∃ front, Laid more front ∧ ∀ node behind fields stop rest,
      readValue fuel front = (node, behind) →
      readFields fuel false behind = (fields, stop, rest) →
      readFields (fuel + 2) first text = ((.ok key, node) :: fields, stop, rest) := by
  cases first with
  | true =>
    obtain ⟨spelling, rest, spelled, dropped, behind⟩ := dropSpace_laid laid
    obtain ⟨front, laidValue, reads⟩ := readField_laid fuel spelled behind
    refine ⟨front, laidValue, ?_⟩
    intro node behind fields stop left value others
    have field := reads node behind fields stop left value others
    cases spelled
    rw [readFields, dropped]
    exact field
  | false =>
    obtain ⟨_, behindComma, commaSpelled, dropped, laidField⟩ := dropSpace_laid laid
    obtain ⟨spelling, rest, spelled, droppedField, behind⟩ := dropSpace_laid laidField
    obtain ⟨front, laidValue, reads⟩ := readField_laid fuel spelled behind
    refine ⟨front, laidValue, ?_⟩
    intro node behind fields stop left value others
    have field := reads node behind fields stop left value others
    cases commaSpelled
    cases spelled
    rw [readFields, dropped]
    simpa [droppedField] using field

end

private theorem ends_itemTokens (rest : List Value) (more : List Token) :
    Ends (itemTokens false rest ++ more) := by
  rintro token first
  cases rest with
  | nil => exact .inr (.inl (Option.some.inj first).symm)
  | cons item rest => exact .inl (Option.some.inj first).symm

private theorem itemTokens_length_pos (rest : List Value) : 0 < (itemTokens false rest).length := by
  cases rest <;> simp [itemTokens, separator]

private theorem fieldTokens_length_pos (rest : List (String × Value)) :
    0 < (fieldTokens false rest).length := by
  cases rest <;> simp [fieldTokens, separator]

private theorem ends_fieldTokens (rest : List (String × Value)) (more : List Token) :
    Ends (fieldTokens false rest ++ more) := by
  rintro token first
  cases rest with
  | nil => exact .inr (.inr (Option.some.inj first).symm)
  | cons field rest => exact .inl (Option.some.inj first).symm

mutual

/-- A value is read from the tokens of its text, whatever may stand behind it. -/
theorem readValue_laid (value : Value) (fuel : Nat) {more : List Token} {text : List Char}
    (fits : Fits value) (ends : Ends more) (laid : Laid (tokens value ++ more) text)
    (enough : 2 * (tokens value).length ≤ fuel) :
    ∃ rest, readValue fuel text = (value.toNode, rest) ∧ Laid more rest := by
  obtain ⟨fuel, rfl⟩ : ∃ left, fuel = left + 1 := by
    obtain ⟨token, rest, begins, _⟩ := tokens_head value
    rw [begins, List.length_cons] at enough
    exact ⟨fuel - 1, by omega⟩
  cases value with
  | null => exact readValue_null laid
  | bool value => exact readValue_bool laid
  | whole value => exact readValue_whole fits ends laid
  | string text => exact readValue_text laid
  | list items =>
    obtain ⟨_, front, spelled, dropped, behind⟩ := dropSpace_laid laid
    cases spelled
    rw [tokens, List.length_cons] at enough
    obtain ⟨rest, read, left⟩ := readItems_laid items fuel fits behind (by omega)
    refine ⟨rest, ?_, left⟩
    rw [readValue, dropped]
    simp [read, Value.toNode]
  | object fields =>
    obtain ⟨_, front, spelled, dropped, behind⟩ := dropSpace_laid laid
    cases spelled
    rw [tokens, List.length_cons] at enough
    obtain ⟨rest, read, left⟩ := readFields_laid fields fuel fits behind (by omega)
    refine ⟨rest, ?_, left⟩
    rw [readValue, dropped]
    simp [read, Value.toNode]

private theorem readItems_laid (items : List Value) (fuel : Nat) {first : Bool} {more : List Token}
    {text : List Char} (fits : ItemsFit items) (laid : Laid (itemTokens first items ++ more) text)
    (enough : 2 * (itemTokens first items).length ≤ fuel) :
    ∃ rest, readItems fuel first text = (itemsToNodes items, .closed, rest) ∧ Laid more rest := by
  cases items with
  | nil =>
    obtain ⟨fuel, rfl⟩ : ∃ left, fuel = left + 1 :=
      ⟨fuel - 1, by simp only [itemTokens, List.length_singleton] at enough; omega⟩
    exact readItems_closed laid
  | cons item items =>
    have others := itemTokens_length_pos items
    obtain ⟨token, tail, begins, _⟩ := tokens_head item
    have itself : 0 < (tokens item).length := by rw [begins]; exact Nat.succ_pos _
    simp only [itemTokens, List.length_append] at enough
    obtain ⟨fuel, rfl⟩ : ∃ left, fuel = left + 1 := ⟨fuel - 1, by omega⟩
    simp only [itemTokens, List.append_assoc] at laid
    obtain ⟨front, laidItem, reads⟩ := readItems_item fuel laid
    obtain ⟨behind, value, laidOthers⟩ :=
      readValue_laid item fuel fits.1 (ends_itemTokens items more) laidItem (by omega)
    obtain ⟨rest, others, left⟩ :=
      readItems_laid items fuel fits.2 laidOthers (by omega)
    exact ⟨rest, reads _ _ _ _ _ value others, left⟩

private theorem readFields_laid (fields : List (String × Value)) (fuel : Nat) {first : Bool}
    {more : List Token} {text : List Char} (fits : FieldsFit fields)
    (laid : Laid (fieldTokens first fields ++ more) text)
    (enough : 2 * (fieldTokens first fields).length ≤ fuel) :
    ∃ rest, readFields fuel first text = (fieldsToNodes fields, .closed, rest) ∧
      Laid more rest := by
  cases fields with
  | nil =>
    obtain ⟨fuel, rfl⟩ : ∃ left, fuel = left + 1 :=
      ⟨fuel - 1, by simp only [fieldTokens, List.length_singleton] at enough; omega⟩
    exact readFields_closed laid
  | cons field fields =>
    obtain ⟨key, value⟩ := field
    have others := fieldTokens_length_pos fields
    simp only [fieldTokens, List.length_append, List.length_cons] at enough
    obtain ⟨fuel, rfl⟩ : ∃ left, fuel = left + 2 := ⟨fuel - 2, by omega⟩
    simp only [fieldTokens, List.append_assoc, List.cons_append] at laid
    obtain ⟨front, laidValue, reads⟩ := readFields_field fuel laid
    obtain ⟨behind, read, laidOthers⟩ :=
      readValue_laid value fuel fits.1 (ends_fieldTokens fields more) laidValue (by omega)
    obtain ⟨rest, others, left⟩ :=
      readFields_laid fields fuel fits.2 laidOthers (by omega)
    exact ⟨rest, reads _ _ _ _ _ read others, left⟩

end

private theorem spelling_length_pos {spelling : List Char} (spelled : token.Spelling spelling) :
    0 < spelling.length := by
  obtain ⟨c, rest, rfl, _⟩ := spelling_head spelled
  exact Nat.succ_pos _

/-- A text has at least as many characters as tokens. -/
theorem length_le_of_laid {all : List Token} (laid : Laid all text) :
    all.length ≤ text.length := by
  induction laid with
  | done blank => exact Nat.zero_le _
  | next blank spelled behind ih =>
    have occupied := spelling_length_pos spelled
    simp only [List.length_cons, List.length_append]
    omega

/-- Every text of a value is read as the tree of the value, with nothing behind it. -/
theorem ofText_laid {value : Value} {text : String} (fits : Fits value)
    (laid : Laid (tokens value) text.toList) : Document.ofText text = ⟨value.toNode, false⟩ := by
  have short := length_le_of_laid laid
  rw [← List.append_nil (tokens value)] at laid
  obtain ⟨rest, read, left⟩ := readValue_laid value (3 * text.toList.length + 3) fits
    (by rintro token ⟨⟩) laid (by omega)
  have blank : dropSpace rest = [] := by
    cases left with
    | done blank =>
      have dropped := dropSpace_blank blank []
      rwa [List.append_nil] at dropped
  simp [Document.ofText, read, blank]

/-- Decoding a text of a value is decoding the tree of the value. -/
theorem decode_laid {α : Type} (decode : Decoder α) {value : Value} {text : String}
    (fits : Fits value) (laid : Laid (tokens value) text.toList) :
    Decoder.ofText decode text = decode (.document 0) value.toNode := by
  rw [Decoder.ofText, ofText_laid fits laid]
  cases decode (.document 0) value.toNode <;> rfl

end NativeThunks.JsonReading
