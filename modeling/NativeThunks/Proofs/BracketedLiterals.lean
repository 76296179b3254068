import NativeThunks.Grammar.Lexer
import Mathlib.Data.List.Basic

/-! Words and literals in front of a closing angle bracket. None of them reaches into the bracket: what
is read from the front of a text is read as well with the bracket behind the text. -/
namespace NativeThunks.BracketedLiterals
open Grammar Text

variable {text : List Char}

/-- The text with the bracket behind it. -/
def bracketed (text : List Char) : List Char := text ++ ['>']

@[simp] theorem bracketed_nil : bracketed [] = ['>'] := rfl

@[simp] theorem bracketed_cons (c : Char) (rest : List Char) :
    bracketed (c :: rest) = c :: bracketed rest := rfl

@[simp] theorem length_bracketed (text : List Char) : (bracketed text).length = text.length + 1 := by
  simp [bracketed]

private theorem takeWhile_bracketed {test : Char → Bool} (stops : test '>' = false)
    (text : List Char) :
    (bracketed text).takeWhile test = text.takeWhile test := by
  induction text with
  | nil => simp [stops]
  | cons c rest ih => simp [List.takeWhile_cons, ih]

private theorem dropWhile_bracketed {test : Char → Bool} (stops : test '>' = false)
    (text : List Char) :
    (bracketed text).dropWhile test = bracketed (text.dropWhile test) := by
  induction text with
  | nil => simp [stops]
  | cons c rest ih =>
    simp only [bracketed_cons, List.dropWhile_cons, ih]
    split <;> rfl

theorem takeWord_bracketed (text : List Char) :
    takeWord? (bracketed text) = (takeWord? text).map fun (word, rest) => (word, bracketed rest) := by
  have stops : isIdentifierContinue '>' = false := by decide
  cases text with
  | nil => rfl
  | cons c rest =>
    simp only [bracketed_cons, takeWord?, takeWhile_bracketed stops, dropWhile_bracketed stops]
    split <;> rfl

private theorem dropSuffix_bracketed (text : List Char) :
    dropSuffix (bracketed text) = bracketed (dropSuffix text) := by
  unfold dropSuffix
  rw [takeWord_bracketed]
  cases takeWord? text <;> rfl

private theorem bracedCode_bracketed (count value : Nat) (text : List Char) :
    bracedCode? count value (bracketed text) =
      (bracedCode? count value text).map fun (code, rest) => (code, bracketed rest) := by
  induction text generalizing count value with
  | nil => rfl
  | cons c rest ih =>
    rw [bracketed_cons]
    by_cases close : c = '}'
    · subst close
      simp only [bracedCode?]
      split <;> rfl
    · by_cases underscore : c = '_'
      · subst underscore
        simp only [bracedCode?]
        split
        · exact ih _ _
        · rfl
      · simp only [bracedCode?]
        cases hexValue? c with
        | none => rfl
        | some digit =>
          dsimp only
          split
          · exact ih _ _
          · rfl

private theorem not_hex_bracket (kind : QuoteKind) (high : Char) :
    kind.admitsHex high '>' = false := by
  unfold QuoteKind.admitsHex
  rw [show hexValue? '>' = none by decide]
  cases hexValue? high <;> rfl

private theorem bracedCode_length {count value code : Nat} {rest : List Char}
    (read : bracedCode? count value text = some (code, rest)) : rest.length ≤ text.length := by
  fun_induction bracedCode? count value text <;> simp_all <;> omega

private theorem quoted_bracketed (kind : QuoteKind) {fuel : Nat} (skipping : Bool)
    (enough : text.length ≤ fuel) :
    quoted? kind (fuel + 1) skipping (bracketed text) =
      (quoted? kind fuel skipping text).map bracketed := by
  fun_induction quoted? kind fuel skipping text
  case case4 | case7 | case12 | case13 =>
    rename_i ih
    simp only [List.length_cons] at enough
    have later := ih (by omega)
    simp_all [quoted?]
  case case5 rest _ _ _ =>
    cases rest <;> simp_all [quoted?]
  case case10 read _ ih =>
    have shorter := bracedCode_length read
    simp only [List.length_cons] at enough
    have later := ih (by omega)
    simp_all [quoted?, bracedCode_bracketed]
  case case14 e rest _ _ _ _ escape ih =>
    have other : e ≠ 'x' ∧ e ≠ 'u' ∧ e ≠ '\r' := by
      refine ⟨?_, ?_, ?_⟩ <;> rintro rfl <;> simp [QuoteKind.admitsEscape] at escape
    simp only [List.length_cons] at enough
    have later := ih (by omega)
    simp_all [quoted?]
  case case15 e rest _ _ _ _ escape =>
    obtain _ | ⟨a, _ | ⟨b, more⟩⟩ := rest
    · simp_all [quoted?]
    · by_cases numbered : e = 'x'
      · subst numbered
        simp_all [quoted?, not_hex_bracket]
      · simp_all [quoted?]
        split <;> simp_all
    · simp_all [quoted?]
      split <;> simp_all
  all_goals simp_all [quoted?, bracedCode_bracketed, dropSuffix_bracketed]

private theorem exponent_bracketed (before : Option (List Char)) (sign value : Bool)
    (text : List Char) :
    exponent? (before.map bracketed) sign value (bracketed text) =
      (exponent? before sign value text).map bracketed := by
  induction text generalizing sign value with
  | nil => cases value <;> rfl
  | cons c rest ih =>
    simp only [bracketed_cons, exponent?]
    split
    · split
      · rfl
      · exact ih _ _
    · split
      · exact ih _ _
      · split
        · exact ih _ _
        · split <;> rfl

private theorem fractionDigits_bracketed (point : Bool) (text : List Char) :
    fractionDigits? point (bracketed text) = (fractionDigits? point text).map bracketed := by
  induction text generalizing point with
  | nil => cases point <;> rfl
  | cons c rest ih =>
    simp only [bracketed_cons, fractionDigits?]
    split
    · exact ih _
    · split
      · split
        · rfl
        · cases rest with
          | nil => rfl
          | cons next more =>
            dsimp only [bracketed_cons]
            split
            · rfl
            · exact ih _
      · split
        · have before := exponent_bracketed (if point then some (c :: rest) else none) false false rest
          cases point <;> exact before
        · split <;> rfl

private theorem numberEnd_bracketed (text : List Char) :
    numberEnd? (bracketed text) = (numberEnd? text).map bracketed := by
  unfold numberEnd?
  simp only [dropSuffix_bracketed]
  cases dropSuffix text with
  | nil => rfl
  | cons c rest =>
    simp only [bracketed_cons]
    split <;> rfl

private theorem fraction_bracketed (text : List Char) :
    fraction? (bracketed text) = (fraction? text).map bracketed := by
  cases text with
  | nil => rfl
  | cons c rest =>
    simp only [bracketed_cons, fraction?]
    split
    · rw [fractionDigits_bracketed]
      cases fractionDigits? false rest with
      | none => rfl
      | some behind => exact numberEnd_bracketed behind
    · rfl

private theorem wholeDigits_bracketed (base : Nat) (empty : Bool) (text : List Char) :
    wholeDigits? base empty (bracketed text) = (wholeDigits? base empty text).map bracketed := by
  induction text generalizing empty with
  | nil => cases empty <;> rfl
  | cons c rest ih =>
    simp only [bracketed_cons, wholeDigits?]
    split
    · split
      · rfl
      · exact ih _
    · cases hexValue? c with
      | none =>
        dsimp only
        split <;> rfl
      | some digit =>
        dsimp only
        split
        · exact ih _
        · split <;> rfl

/-- A number without a base mark is decimal. -/
private theorem whole_decimal {text : List Char} (unmarked : ∀ rest, text ≠ '0' :: 'x' :: rest ∧
    text ≠ '0' :: 'o' :: rest ∧ text ≠ '0' :: 'b' :: rest) :
    whole? text = (wholeDigits? 10 true text).bind numberEnd? := by
  unfold whole?
  split
  · exact absurd rfl (unmarked _).1
  · exact absurd rfl (unmarked _).2.1
  · exact absurd rfl (unmarked _).2.2
  · rfl

private theorem whole_bracketed (text : List Char) :
    whole? (bracketed text) = (whole? text).map bracketed := by
  have ended (base : Nat) (rest : List Char) :
      (wholeDigits? base true (bracketed rest)).bind numberEnd? =
        ((wholeDigits? base true rest).bind numberEnd?).map bracketed := by
    rw [wholeDigits_bracketed]
    cases wholeDigits? base true rest with
    | none => rfl
    | some behind => exact numberEnd_bracketed behind
  obtain _ | ⟨c, _ | ⟨d, rest⟩⟩ := text
  · rfl
  · by_cases zero : c = '0'
    · subst zero
      rfl
    · rw [whole_decimal (by simp [zero]), whole_decimal (by simp [zero])]
      exact ended 10 [c]
  · by_cases marked : c = '0' ∧ (d = 'x' ∨ d = 'o' ∨ d = 'b')
    · obtain ⟨rfl, rfl | rfl | rfl⟩ := marked
      · exact ended 16 rest
      · exact ended 8 rest
      · exact ended 2 rest
    · have unmarked (behind : List Char) : ∀ rest, c :: d :: behind ≠ '0' :: 'x' :: rest ∧
          c :: d :: behind ≠ '0' :: 'o' :: rest ∧ c :: d :: behind ≠ '0' :: 'b' :: rest := by
        simp_all
      rw [whole_decimal (unmarked rest), bracketed_cons, bracketed_cons, whole_decimal (unmarked _)]
      exact ended 10 (c :: d :: rest)

private theorem consumed_bracketed (text rest : List Char) :
    consumed (bracketed text) (bracketed rest) = consumed text rest := by
  simp [consumed, bracketed, List.take_append_of_le_length]

/-- The bracket is no hash mark, so it does not help to close raw text. -/
theorem take_bracketed (hashes : Nat) (text : List Char) :
    (bracketed text).take hashes = List.replicate hashes '#' ↔
      text.take hashes = List.replicate hashes '#' := by
  rcases Nat.lt_or_ge text.length hashes with short | long
  · constructor
    · intro same
      have member : '>' ∈ (bracketed text).take hashes := by
        rw [List.take_of_length_le (by rw [length_bracketed]; omega)]
        simp [bracketed]
      rw [same] at member
      exact absurd (List.eq_of_mem_replicate member) (by decide)
    · intro same
      have lengths := congrArg List.length same
      simp only [List.length_take, List.length_replicate] at lengths
      omega
  · rw [bracketed, List.take_append_of_le_length long]

theorem drop_bracketed {count : Nat} (le : count ≤ text.length) :
    (bracketed text).drop count = bracketed (text.drop count) :=
  List.drop_append_of_le_length le

private theorem rawBody_bracketed (kind : QuoteKind) (hashes : Nat) (text : List Char) :
    rawBody? kind hashes (bracketed text) = (rawBody? kind hashes text).map bracketed := by
  fun_induction rawBody? kind hashes text
  case case3 rest _ =>
    cases rest <;> simp_all [rawBody?]
  case case4 c rest _ _ closed =>
    simp only [Bool.and_eq_true, beq_iff_eq] at closed
    have long : hashes ≤ rest.length := by
      have lengths := congrArg List.length closed.2
      simp only [List.length_take, List.length_replicate] at lengths
      omega
    simp_all [rawBody?, take_bracketed, drop_bracketed long, dropSuffix_bracketed]
  all_goals simp_all [rawBody?, take_bracketed]

private theorem rawQuoted_bracketed (kind : QuoteKind) (text : List Char) :
    rawQuoted? kind (bracketed text) = (rawQuoted? kind text).map bracketed := by
  have stops : ('>' == '#') = false := by decide
  unfold rawQuoted?
  rw [dropWhile_bracketed stops, takeWhile_bracketed stops]
  cases text.dropWhile (· == '#') with
  | nil => rfl
  | cons c rest =>
    by_cases quote : c = '"'
    · subst quote
      simp only [bracketed_cons]
      split
      · exact rawBody_bracketed _ _ _
      · rfl
    · simp_all

private theorem closeQuote_bracketed (text : List Char) :
    closeQuote? (bracketed text) = (closeQuote? text).map bracketed := by
  cases text with
  | nil => rfl
  | cons c rest =>
    by_cases quote : c = '\''
    · subst quote
      simp [closeQuote?, dropSuffix_bracketed]
    · simp_all [closeQuote?]

/-- Behind the one character or the escape a quote has to stand, which the bracket is not. -/
theorem byte_bracketed (text : List Char) :
    (byteBody? (bracketed text)).bind closeQuote? =
      ((byteBody? text).bind closeQuote?).map bracketed := by
  have closed := closeQuote_bracketed
  obtain _ | ⟨c, rest⟩ := text
  · rfl
  · by_cases escaped : c = '\\'
    · subst escaped
      obtain _ | ⟨e, rest⟩ := rest
      · rfl
      · by_cases numbered : e = 'x'
        · subst numbered
          obtain _ | ⟨high, _ | ⟨low, rest⟩⟩ := rest
          · rfl
          · simp [byteBody?, not_hex_bracket, QuoteKind.admitsEscape]
          · simp only [bracketed_cons, byteBody?]
            split
            · exact closed rest
            · rfl
        · simp only [bracketed_cons, byteBody?, numbered, false_imp_iff, implies_true]
          split
          · exact closed rest
          · rfl
    · simp only [bracketed_cons, byteBody?, escaped, false_imp_iff, implies_true]
      split
      · exact closed rest
      · rfl

private theorem character_bracketed (text : List Char) :
    (characterBody? (bracketed text)).bind closeQuote? =
      ((characterBody? text).bind closeQuote?).map bracketed := by
  have closed := closeQuote_bracketed
  obtain _ | ⟨c, rest⟩ := text
  · rfl
  · by_cases escaped : c = '\\'
    · subst escaped
      obtain _ | ⟨e, rest⟩ := rest
      · rfl
      · by_cases numbered : e = 'x'
        · subst numbered
          obtain _ | ⟨high, _ | ⟨low, rest⟩⟩ := rest
          · rfl
          · simp [characterBody?, not_hex_bracket, QuoteKind.admitsEscape]
          · simp only [bracketed_cons, characterBody?]
            split
            · exact closed rest
            · rfl
        · by_cases braced : e = 'u'
          · subst braced
            obtain _ | ⟨d, rest⟩ := rest
            · rfl
            · by_cases opened : d = '{'
              · subst opened
                simp only [bracketed_cons, characterBody?, bracedCode_bracketed]
                cases bracedCode? 0 0 rest with
                | none => rfl
                | some read => exact closed read.2
              · simp [characterBody?, opened, QuoteKind.admitsEscape]
          · simp only [bracketed_cons, characterBody?, numbered, braced, false_imp_iff, implies_true]
            split
            · exact closed rest
            · rfl
    · simp only [bracketed_cons, characterBody?, escaped, false_imp_iff, implies_true]
      exact closed rest

/-- The number at the front of the text. -/
def number? (text : List Char) : Option (Literal × List Char) :=
  match fraction? text with
  | some rest => some (.fraction (consumed text rest), rest)
  | none => (whole? text).map fun rest => (.integer (consumed text rest), rest)

private theorem number_bracketed (text : List Char) : number? (bracketed text) =
    (number? text).map fun (value, rest) => (value, bracketed rest) := by
  unfold number?
  rw [fraction_bracketed, whole_bracketed]
  cases fraction? text with
  | some rest => simp [consumed_bracketed]
  | none => cases whole? text <;> simp [consumed_bracketed]

/-- The quoted literal at the front of the text. -/
def quotedLiteral? (text : List Char) : Option (Literal × List Char) :=
  match text with
  | '"' :: rest => (quoted? .text text.length false rest).map (.text, ·)
  | 'r' :: rest => (rawQuoted? .text rest).map (.text, ·)
  | 'b' :: '"' :: rest => (quoted? .bytes text.length false rest).map (.bytes, ·)
  | 'b' :: 'r' :: rest => (rawQuoted? .bytes rest).map (.bytes, ·)
  | 'c' :: '"' :: rest => (quoted? .nulTerminated text.length false rest).map (.nulTerminated, ·)
  | 'c' :: 'r' :: rest => (rawQuoted? .nulTerminated rest).map (.nulTerminated, ·)
  | 'b' :: '\'' :: rest => ((byteBody? rest).bind closeQuote?).map (.byte, ·)
  | '\'' :: rest => ((characterBody? rest).bind closeQuote?).map (.character, ·)
  | _ => none

/-- What is read at the front of the text behind the search for a quoted literal. -/
def orNumber? (text : List Char) : Option (Literal × List Char) → Option (Literal × List Char)
  | some found => some found
  | none => number? text

private theorem literal_eq (text : List Char) :
    literal? text = (quotedLiteral? text).or (number? text) := by
  change orNumber? text (quotedLiteral? text) = _
  cases quotedLiteral? text <;> rfl

private theorem quotedLiteral_bracketed (text : List Char) : quotedLiteral? (bracketed text) =
    (quotedLiteral? text).map fun (value, rest) => (value, bracketed rest) := by
  have quoted (kind : QuoteKind) (rest : List Char) :
      quoted? kind (rest.length + 1 + 1) false (bracketed rest) =
        (quoted? kind (rest.length + 1) false rest).map bracketed :=
    quoted_bracketed kind false (Nat.le_succ _)
  have marked (kind : QuoteKind) (rest : List Char) :
      quoted? kind (rest.length + 1 + 1 + 1) false (bracketed rest) =
        (quoted? kind (rest.length + 1 + 1) false rest).map bracketed :=
    quoted_bracketed kind false (Nat.le_add_right _ 2)
  fun_cases quotedLiteral? text
  case case9 =>
    obtain _ | ⟨c, _ | ⟨d, rest⟩⟩ := text
    · rfl
    · simp_all [quotedLiteral?]
    · simp_all [quotedLiteral?]
  all_goals simp_all [quotedLiteral?, rawQuoted_bracketed, byte_bracketed, character_bracketed,
    Option.map_map, Function.comp_def]

theorem literal_bracketed (text : List Char) : literal? (bracketed text) =
    (literal? text).map fun (value, rest) => (value, bracketed rest) := by
  rw [literal_eq, literal_eq, quotedLiteral_bracketed, number_bracketed]
  cases quotedLiteral? text <;> rfl

end NativeThunks.BracketedLiterals
