import NativeThunks.Toml.Quotation
import NativeThunks.Toml.Scalar
import Mathlib.Tactic.SplitIfs

/-! Texts in TOML quotes. Whatever kind of quotes is chosen for a text, the text is read back, and
what stands behind the closing quote is left, unless it is another quote. -/
namespace NativeThunks.TomlQuotes
open Toml

/-- A text that does not go on with this quote. -/
def Apart (quote : Char) (text : List Char) : Prop := text.head? ≠ some quote

/-- Spellings of a character between double quotes. In a text of several lines the line feed stands
for itself. -/
inductive CharSpelling (lines : Bool) : Char → List Char → Prop where
  | letter {c e : Char} (escape : escaped? e = some c) : CharSpelling lines c ['\\', e]
  | unit {c p q r s : Char} (value : charAt? [p, q, r, s] = some c) :
      CharSpelling lines c ['\\', 'u', p, q, r, s]
  | plain {c : Char} (plain : isPlain c = true) (unquoted : c ≠ '"') (unescaped : c ≠ '\\') :
      CharSpelling lines c [c]
  | lineFeed (several : lines = true) : CharSpelling lines '\n' ['\n']

private theorem charAt_low : ∀ n < 32,
    charAt? ['0', '0', upperHexDigit (n / 16), upperHexDigit (n % 16)] = some (Char.ofNat n) := by
  decide

/-- A control character is found by its number in two digits. -/
theorem charAt_control {c : Char} (control : isControl c = true) :
    charAt? ['0', '0', upperHexDigit (c.toNat / 16), upperHexDigit (c.toNat % 16)] = some c := by
  simp only [isControl, Bool.or_eq_true, Bool.and_eq_true, decide_eq_true_eq, beq_iff_eq] at control
  rcases control with ⟨⟨low, _⟩, _⟩ | rfl
  · have found := charAt_low c.toNat low
    rwa [Char.ofNat_toNat] at found
  · decide

private theorem plain_of_not_control {c : Char} (control : isControl c = false) (feed : c ≠ '\n') :
    isPlain c = true := by
  simp only [isControl, Bool.or_eq_false_iff, Bool.and_eq_false_iff, decide_eq_false_iff_not,
    bne_eq_false_iff_eq, beq_eq_false_iff_ne, feed, or_false] at control
  simp only [isPlain, Bool.or_eq_true, beq_iff_eq, Bool.and_eq_true, decide_eq_true_eq, bne_iff_ne]
  rcases control.1 with above | tab
  · exact .inr ⟨Char.not_lt.mp above, control.2⟩
  · exact .inl tab

private theorem plain_ne_lineEnd {c : Char} (plain : isPlain c = true) : c ≠ '\n' ∧ c ≠ '\r' := by
  constructor <;> (rintro rfl; cases plain)

theorem escapeChar_spelling (lines : Bool) {c : Char} (unquoted : c ≠ '"') :
    CharSpelling lines c (escapeChar lines c) := by
  unfold escapeChar
  split_ifs with backspace tab feed several form carriage backslash control
  · subst backspace
    exact .letter rfl
  · subst tab
    exact .letter rfl
  · subst feed
    exact .lineFeed several
  · subst feed
    exact .letter rfl
  · subst form
    exact .letter rfl
  · subst carriage
    exact .letter rfl
  · subst backslash
    exact .letter rfl
  · exact .unit (charAt_control control)
  · exact .plain (plain_of_not_control (by simpa using control) feed) unquoted backslash

private theorem escaped_ne {c e : Char} (escape : escaped? e = some c) : e ≠ 'u' ∧ e ≠ 'U' := by
  constructor <;> (rintro rfl; cases escape)

private theorem basicText_spelling {c : Char} {spelling : List Char}
    (spelled : CharSpelling false c spelling) (rest : List Char) :
    basicText (spelling ++ rest) = cons? c (basicText rest) := by
  cases spelled with
  | letter escape =>
    obtain ⟨small, large⟩ := escaped_ne escape
    simp [basicText, small, large, escape]
  | unit value => simp [basicText, value]
  | plain plain unquoted unescaped => simp [basicText, plain, unescaped]
  | lineFeed several => cases several

private theorem basicLines_spelling {c : Char} {spelling : List Char}
    (spelled : CharSpelling true c spelling) (rest : List Char) :
    basicLines false (spelling ++ rest) = cons? c (basicLines false rest) := by
  cases spelled with
  | letter escape =>
    obtain ⟨small, large⟩ := escaped_ne escape
    simp [basicLines, small, large, escape]
  | unit value => simp [basicLines, value]
  | plain plain unquoted unescaped =>
    obtain ⟨feed, carriage⟩ := plain_ne_lineEnd plain
    simp [basicLines, plain, unquoted, unescaped, carriage]
  | lineFeed several => simp [basicLines]

private theorem basicText_escapeText (text rest : List Char) :
    basicText (escapeText false 0 text ++ '"' :: rest) = some (text, rest) := by
  induction text with
  | nil => rfl
  | cons c text ih =>
    by_cases quote : c = '"'
    · subst quote
      have escape : CharSpelling false '"' ['\\', '"'] := .letter rfl
      have first := basicText_spelling escape (escapeText false 0 text ++ '"' :: rest)
      rw [ih] at first
      simpa [escapeText, escapeText.allowed, cons?] using first
    · have first := basicText_spelling (escapeChar_spelling false quote)
        (escapeText false 0 text ++ '"' :: rest)
      rw [ih] at first
      simpa [escapeText, escapeText.allowed, quote, cons?] using first

private theorem literalText_append {text : List Char} (plain : ∀ c ∈ text, isPlain c = true)
    (unquoted : '\'' ∉ text) (rest : List Char) :
    literalText (text ++ '\'' :: rest) = some (text, rest) := by
  induction text with
  | nil => rfl
  | cons c text ih =>
    obtain ⟨first, others⟩ := List.forall_mem_cons.mp plain
    simp only [List.mem_cons, not_or] at unquoted
    have other : c ≠ '\'' := fun same => unquoted.1 same.symm
    simp [literalText, first, ih others unquoted.2, cons?]

/-- Closing quotes alone have no quote of the text before them. -/
theorem closing_apart {quote : Char} {rest : List Char} (apart : Apart quote rest) :
    closing quote rest = ([], rest) := by
  match rest with
  | [] => rfl
  | [a] => simp_all [closing, Apart]
  | a :: b :: rest => simp_all [closing, Apart]

private theorem closing_one {quote : Char} {rest : List Char} (apart : Apart quote rest) :
    closing quote (quote :: rest) = ([quote], rest) := by
  match rest with
  | [] => simp [closing]
  | a :: rest => simp_all [closing, Apart]

private theorem closing_two (quote : Char) (rest : List Char) :
    closing quote (quote :: quote :: rest) = ([quote, quote], rest) := by
  simp [closing]

/-- A text that does not begin with two quotes is at most one quote, or the three that close it
do not make two at its beginning. -/
theorem closed_cases {quote : Char} {text : List Char} (few : ∀ more, text ≠ quote :: quote :: more)
    (rest : List Char) :
    text = [] ∨ text = [quote] ∨
      ∀ more, text ++ quote :: quote :: quote :: rest ≠ quote :: quote :: more := by
  match text with
  | [] => exact .inl rfl
  | [c] =>
    by_cases same : c = quote
    · exact .inr (.inl (by rw [same]))
    · exact .inr (.inr (by simp [same]))
  | c :: d :: text =>
    refine .inr (.inr ?_)
    rintro more same
    simp only [List.cons_append, List.cons.injEq] at same
    exact few text (by rw [same.1, same.2.1])

/-- A quote that no two others follow stands for itself. -/
theorem basicLines_quote {rest : List Char} (single : ∀ more, rest ≠ '"' :: '"' :: more) :
    basicLines false ('"' :: rest) = cons? '"' (basicLines false rest) := by
  have plain : isPlain '"' = true := by decide
  rw [basicLines]
  · simp [plain]
  all_goals simp_all

/-- No spelling begins with a double quote, nor with a line end unless the character is one. -/
theorem spelling_head {lines : Bool} {c : Char} {spelling : List Char}
    (spelled : CharSpelling lines c spelling) :
    ∃ d more, spelling = d :: more ∧ d ≠ '"' ∧ (c ≠ '\n' → d ≠ '\n' ∧ d ≠ '\r') := by
  cases spelled with
  | plain plain unquoted unescaped => exact ⟨_, _, rfl, unquoted, fun _ => plain_ne_lineEnd plain⟩
  | lineFeed several => exact ⟨_, _, rfl, by decide, fun other => absurd rfl other⟩
  | _ => exact ⟨_, _, rfl, by decide, fun _ => by decide⟩

/-- The written text begins with a double quote only where one may still stand for itself. -/
theorem escapeText_head (lines : Bool) {left : Nat} {c : Char} (escaped : c = '"' → left = 0)
    (text : List Char) : ∃ d more, escapeText lines left (c :: text) = d :: more ∧ d ≠ '"' := by
  by_cases quote : c = '"'
  · obtain rfl := escaped quote
    subst quote
    exact ⟨_, _, rfl, by decide⟩
  · obtain ⟨d, more, spelling, other, _⟩ := spelling_head (escapeChar_spelling lines quote)
    exact ⟨d, more ++ escapeText lines (escapeText.allowed lines) text,
      by simp [escapeText, quote, spelling], other⟩

/-- Behind a double quote that stands for itself, two more do not. -/
theorem escapeText_few {left : Nat} (few : left ≤ 1) (text : List Char) :
    ∀ more, escapeText true left text ≠ '"' :: '"' :: more := by
  intro more
  match text with
  | [] => simp [escapeText]
  | c :: text =>
    by_cases escaped : c = '"' → left = 0
    · obtain ⟨d, front, written, other⟩ := escapeText_head true escaped text
      simp [written, other]
    · obtain ⟨rfl, follows⟩ : c = '"' ∧ left ≠ 0 := by simpa using escaped
      obtain rfl : left = 1 := by omega
      match text with
      | [] => simp [escapeText]
      | d :: text =>
        obtain ⟨e, front, written, other⟩ := escapeText_head true (fun _ => rfl) text
        rw [escapeText, written]
        simp [other]

private theorem basicLines_raw {written text rest : List Char} (apart : Apart '"' rest)
    (few : ∀ more, written ≠ '"' :: '"' :: more)
    (behind : basicLines false (written ++ '"' :: '"' :: '"' :: rest) = some (text, rest)) :
    basicLines false ('"' :: (written ++ '"' :: '"' :: '"' :: rest)) =
      some ('"' :: text, rest) := by
  rcases closed_cases few rest with rfl | rfl | single
  · obtain rfl : [] = text := by simpa [basicLines, closing_apart apart] using behind
    simp [basicLines, closing_one apart]
  · obtain rfl : ['"'] = text := by simpa [basicLines, closing_one apart] using behind
    simp [basicLines, closing_two]
  · rw [basicLines_quote single, behind]
    rfl

private theorem basicLines_escapeText (text : List Char) {rest : List Char} (apart : Apart '"' rest)
    {left : Nat} (few : left ≤ 2) :
    basicLines false (escapeText true left text ++ '"' :: '"' :: '"' :: rest) =
      some (text, rest) := by
  induction text generalizing left with
  | nil => simp [basicLines, escapeText, closing_apart apart]
  | cons c text ih =>
    by_cases quote : c = '"'
    case neg =>
      have first := basicLines_spelling (escapeChar_spelling true quote)
        (escapeText true 2 text ++ '"' :: '"' :: '"' :: rest)
      rw [ih (Nat.le_refl 2)] at first
      simpa [escapeText, escapeText.allowed, quote, cons?] using first
    case pos =>
      subst quote
      cases left with
      | zero =>
        have escape : CharSpelling true '"' ['\\', '"'] := .letter rfl
        have first := basicLines_spelling escape
          (escapeText true 2 text ++ '"' :: '"' :: '"' :: rest)
        rw [ih (Nat.le_refl 2)] at first
        simpa [escapeText, escapeText.allowed, cons?] using first
      | succ left =>
        have fewer : left ≤ 1 := Nat.le_of_succ_le_succ few
        rw [escapeText, List.cons_append]
        exact basicLines_raw apart (escapeText_few fewer text) (ih (by omega))

private theorem literalLines_quote {rest : List Char} (single : ∀ more, rest ≠ '\'' :: '\'' :: more) :
    literalLines ('\'' :: rest) = cons? '\'' (literalLines rest) := by
  have plain : isPlain '\'' = true := by decide
  rw [literalLines]
  · simp [plain]
  all_goals simp_all

private theorem literalLines_other {c : Char} {rest : List Char}
    (written : isPlain c = true ∨ c = '\n')
    (unquoted : c ≠ '\'') : literalLines (c :: rest) = cons? c (literalLines rest) := by
  rcases written with plain | rfl
  · obtain ⟨feed, carriage⟩ := plain_ne_lineEnd plain
    rw [literalLines, if_pos plain] <;> simp_all
  · rw [literalLines]

private theorem le_longestRun (quote : Char) (run : Nat) (text : List Char) :
    run ≤ longestRun quote run text := by
  induction text generalizing run with
  | nil => exact Nat.le_refl run
  | cons c text ih =>
    rw [longestRun]
    split
    · exact Nat.le_trans (Nat.le_succ run) (ih (run + 1))
    · exact Nat.le_max_left ..

private theorem longestRun_other {quote c : Char} (other : c ≠ quote) (run : Nat) (text : List Char) :
    longestRun quote 0 text ≤ longestRun quote run (c :: text) := by
  rw [longestRun, if_neg other]
  exact Nat.le_max_right ..

private theorem longestRun_quote (quote : Char) (run : Nat) (text : List Char) :
    longestRun quote run (quote :: text) = longestRun quote (run + 1) text := by
  rw [longestRun, if_pos rfl]

private theorem literalLines_raw {text rest : List Char} (apart : Apart '\'' rest)
    (few : ∀ more, text ≠ '\'' :: '\'' :: more)
    (behind : literalLines (text ++ '\'' :: '\'' :: '\'' :: rest) = some (text, rest)) :
    literalLines ('\'' :: (text ++ '\'' :: '\'' :: '\'' :: rest)) = some ('\'' :: text, rest) := by
  rcases closed_cases few rest with rfl | rfl | single
  · simp [literalLines, closing_one apart]
  · simp [literalLines, closing_two]
  · rw [literalLines_quote single, behind]
    rfl

/-- The run counts the quotes that stand right before the text. -/
theorem literalLines_append (text : List Char) {rest : List Char} (apart : Apart '\'' rest)
    {run : Nat} (written : ∀ c ∈ text, isPlain c = true ∨ c = '\n')
    (few : longestRun '\'' run text ≤ 2) :
    literalLines (text ++ '\'' :: '\'' :: '\'' :: rest) = some (text, rest) := by
  induction text generalizing run with
  | nil => simp [literalLines, closing_apart apart]
  | cons c text ih =>
    obtain ⟨first, others⟩ := List.forall_mem_cons.mp written
    by_cases quote : c = '\''
    case neg =>
      have behind := ih others (Nat.le_trans (longestRun_other quote run text) few)
      rw [List.cons_append, literalLines_other first quote, behind]
      rfl
    case pos =>
      subst quote
      rw [longestRun_quote] at few
      refine literalLines_raw apart (fun more three => ?_) (ih others few)
      rw [three, longestRun_quote, longestRun_quote] at few
      have long := le_longestRun '\'' (run + 1 + 1 + 1) more
      omega

/-- What stands behind an opening quote on its own line is not dropped. -/
theorem dropLineEnd_of_head {text : List Char} (feed : text.head? ≠ some '\n')
    (carriage : text.head? ≠ some '\r') : dropLineEnd text = text := by
  unfold dropLineEnd
  split <;> simp_all

/-- The line end behind the opening quotes is dropped, and nothing else. -/
theorem dropLineEnd_start {text behind : List Char}
    (head : '\n' ∉ text → behind.head? ≠ some '\n' ∧ behind.head? ≠ some '\r') :
    dropLineEnd ((if text.contains '\n' then ['\n'] else []) ++ behind) = behind := by
  by_cases several : '\n' ∈ text
  · simp [several, dropLineEnd]
  · simpa [several] using dropLineEnd_of_head (head several).1 (head several).2

private theorem notMem_of_longestRun {quote : Char} {text : List Char}
    (none : longestRun quote 0 text = 0) : quote ∉ text := by
  induction text with
  | nil => simp
  | cons c text ih =>
    by_cases same : c = quote
    · subst same
      have long := le_longestRun c 1 text
      rw [longestRun_quote, Nat.zero_add] at none
      omega
    · have others := longestRun_other same 0 text
      have behind := ih (by omega)
      simpa [Ne.symm same] using behind

private theorem style_literal {traits : QuoteTraits} (chosen : traits.style = .literal) :
    traits.control = false ∧ traits.singleRun = 0 ∧ traits.lineFeed = false := by
  unfold QuoteTraits.style at chosen
  split_ifs at chosen with _ plain
  simpa [and_assoc] using plain

private theorem style_literalLines {traits : QuoteTraits} (chosen : traits.style = .literalLines) :
    traits.control = false ∧ traits.singleRun ≤ 2 := by
  unfold QuoteTraits.style at chosen
  split_ifs at chosen with _ _ _ plain
  simpa using plain

private theorem quotedText_basic (text : List Char) {rest : List Char} (apart : Apart '"' rest) :
    quotedText? (quoteAs .basic text ++ rest) = some (text, rest) := by
  have read := basicText_escapeText text rest
  simp only [quoteAs, List.cons_append, List.append_assoc, List.nil_append]
  cases text with
  | nil =>
    simp only [escapeText, List.nil_append] at read ⊢
    rw [quotedText?, read]
    rintro more same
    simp_all [Apart]
  | cons c text =>
    obtain ⟨d, more, written, other⟩ := escapeText_head false (fun _ => rfl) text
    rw [written, List.cons_append] at read ⊢
    rw [quotedText?, read]
    simp [other]

private theorem quotedText_literal {text : List Char} (plain : ∀ c ∈ text, isPlain c = true)
    (unquoted : '\'' ∉ text) {rest : List Char} (apart : Apart '\'' rest) :
    quotedText? (quoteAs .literal text ++ rest) = some (text, rest) := by
  have read := literalText_append plain unquoted rest
  simp only [quoteAs, List.cons_append, List.append_assoc, List.nil_append]
  cases text with
  | nil =>
    simp only [List.nil_append] at read ⊢
    rw [quotedText?, read]
    rintro more same
    simp_all [Apart]
  | cons c text =>
    rw [List.cons_append] at read ⊢
    rw [quotedText?, read]
    rintro more same
    simp_all

private theorem quotedText_basicLines (text : List Char) {rest : List Char} (apart : Apart '"' rest) :
    quotedText? (quoteAs .basicLines text ++ rest) = some (text, rest) := by
  have read := basicLines_escapeText text apart (Nat.le_refl 2)
  simp only [quoteAs, List.cons_append, List.append_assoc, List.nil_append, quotedText?]
  rw [dropLineEnd_start, read]
  intro single
  cases text with
  | nil => simp [escapeText]
  | cons c text =>
    by_cases quote : c = '"'
    · subst quote
      simp [escapeText]
    · obtain ⟨d, more, spelling, _, apart⟩ := spelling_head (escapeChar_spelling true quote)
      obtain ⟨feed, carriage⟩ := apart fun same => single (same ▸ List.mem_cons_self)
      simp [escapeText, quote, spelling, feed, carriage]

private theorem quotedText_literalLines {text : List Char}
    (written : ∀ c ∈ text, isPlain c = true ∨ c = '\n') (few : longestRun '\'' 0 text ≤ 2)
    {rest : List Char} (apart : Apart '\'' rest) :
    quotedText? (quoteAs .literalLines text ++ rest) = some (text, rest) := by
  have read := literalLines_append text apart written few
  simp only [quoteAs, List.cons_append, List.append_assoc, List.nil_append, quotedText?]
  rw [dropLineEnd_start, read]
  intro single
  cases text with
  | nil => simp
  | cons c text =>
    have other : c ≠ '\n' := fun same => single (same ▸ List.mem_cons_self)
    have plain := ((List.forall_mem_cons.mp written).1).resolve_right other
    simp [plain_ne_lineEnd plain]

/-- A text is read back from its quotes, where no quote follows them. -/
theorem quotedText_quote (text : String) {rest : List Char} (double : Apart '"' rest)
    (single : Apart '\'' rest) :
    quotedText? ((quote text).toList ++ rest) = some (text.toList, rest) := by
  rw [quote, String.toList_ofList]
  cases chosen : (QuoteTraits.of text.toList).style with
  | basic => exact quotedText_basic text.toList double
  | basicLines => exact quotedText_basicLines text.toList double
  | literal =>
    obtain ⟨control, run, feed⟩ := style_literal chosen
    have plain : ∀ c ∈ text.toList, isPlain c = true := by
      intro c member
      simp only [QuoteTraits.of, List.any_eq_false, List.contains_eq_mem,
        decide_eq_false_iff_not] at control feed
      exact plain_of_not_control (by simpa using control c member) fun same => feed (same ▸ member)
    exact quotedText_literal plain (notMem_of_longestRun run) single
  | literalLines =>
    obtain ⟨control, few⟩ := style_literalLines chosen
    simp only [QuoteTraits.of, List.any_eq_false] at control
    refine quotedText_literalLines (fun c member => ?_) few single
    by_cases feed : c = '\n'
    · exact .inr feed
    · exact .inl (plain_of_not_control (by simpa using control c member) feed)

end NativeThunks.TomlQuotes
