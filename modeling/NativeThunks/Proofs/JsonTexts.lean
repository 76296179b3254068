import NativeThunks.Json.Reader
import NativeThunks.Json.Value
import Mathlib.Tactic.SplitIfs

/-! Texts of JSON documents. A text is one of a value if it is made of the value's tokens in their
order, every one of them in a spelling of its own, with any space between them. The text that is
written for a value is one of its texts. -/
namespace NativeThunks.JsonTexts
open Json

/-- Spellings of a text between its quotes. A character stands for itself or is escaped, by a letter
or by its code unit; characters beyond the first plane take two units. -/
inductive QuoteSpelling : List Char → List Char → Prop where
  | nil : QuoteSpelling [] []
  | plain {c : Char} {text spelling : List Char} (printable : ' ' ≤ c) (unquoted : c ≠ '"')
      (unescaped : c ≠ '\\') (behind : QuoteSpelling text spelling) :
      QuoteSpelling (c :: text) (c :: spelling)
  | letter {c e : Char} {text spelling : List Char} (escape : escaped? e = some c)
      (behind : QuoteSpelling text spelling) :
      QuoteSpelling (c :: text) ('\\' :: e :: spelling)
  | unit {p q r s : Char} {n : Nat} {text spelling : List Char}
      (value : hexUnit? p q r s = some n) (whole : isLeading n = false ∧ isTrailing n = false)
      (behind : QuoteSpelling text spelling) :
      QuoteSpelling (Char.ofNat n :: text) ('\\' :: 'u' :: p :: q :: r :: s :: spelling)
  | pair {p q r s t u v w : Char} {m n : Nat} {text spelling : List Char}
      (first : hexUnit? p q r s = some m) (leading : isLeading m = true)
      (second : hexUnit? t u v w = some n) (trailing : isTrailing n = true)
      (behind : QuoteSpelling text spelling) :
      QuoteSpelling (pairChar m n :: text)
        ('\\' :: 'u' :: p :: q :: r :: s :: '\\' :: 'u' :: t :: u :: v :: w :: spelling)

private theorem hexUnit_control : ∀ n < 32,
    hexUnit? '0' '0' (hexDigit (n / 16)) (hexDigit (n % 16)) = some n := by decide

/-- The way in which texts are written is one of their spellings. -/
theorem escapeChar_spelling (c : Char) {text spelling : List Char}
    (behind : QuoteSpelling text spelling) :
    QuoteSpelling (c :: text) (escapeChar c ++ spelling) := by
  unfold escapeChar
  split_ifs with quote backslash backspace feed line carriage tab control
  · subst quote
    exact .letter rfl behind
  · subst backslash
    exact .letter rfl behind
  · subst backspace
    exact .letter rfl behind
  · subst feed
    exact .letter rfl behind
  · subst line
    exact .letter rfl behind
  · subst carriage
    exact .letter rfl behind
  · subst tab
    exact .letter rfl behind
  · have below : c.toNat < 32 := control
    have unit := hexUnit_control c.toNat below
    have whole : isLeading c.toNat = false ∧ isTrailing c.toNat = false := by
      simp only [isLeading, isTrailing, Bool.and_eq_false_iff, decide_eq_false_iff_not]
      omega
    have spelled := QuoteSpelling.unit unit whole behind
    rwa [Char.ofNat_toNat] at spelled
  · exact .plain (Char.not_lt.mp control) quote backslash behind

private theorem escaped_spelling (text : List Char) :
    QuoteSpelling text (text.flatMap escapeChar) := by
  induction text with
  | nil => exact .nil
  | cons c rest ih => exact escapeChar_spelling c ih

/-- The pieces of a document between which space may stand. -/
inductive Token where
  | openList | closeList | openObject | closeObject | comma | colon
  | null
  | bool (value : Bool)
  | whole (value : Nat)
  | text (content : String)

/-- Spellings of a token. Only texts have more than one. -/
inductive Token.Spelling : Token → List Char → Prop where
  | openList : Spelling .openList ['[']
  | closeList : Spelling .closeList [']']
  | openObject : Spelling .openObject ['\x7b']
  | closeObject : Spelling .closeObject ['\x7d']
  | comma : Spelling .comma [',']
  | colon : Spelling .colon [':']
  | null : Spelling .null ['n', 'u', 'l', 'l']
  | yes : Spelling (.bool true) ['t', 'r', 'u', 'e']
  | no : Spelling (.bool false) ['f', 'a', 'l', 's', 'e']
  | whole (value : Nat) : Spelling (.whole value) (Nat.toDigits 10 value)
  | text {content : String} {spelling : List Char}
      (quote : QuoteSpelling content.toList spelling) :
      Spelling (.text content) ('"' :: (spelling ++ ['"']))

/-- Texts that are made of tokens in their order with space before, between and behind them. -/
inductive Laid : List Token → List Char → Prop where
  | done {space : List Char} (blank : ∀ c ∈ space, isSpace c = true) : Laid [] space
  | next {token : Token} {tokens : List Token} {space spelling text : List Char}
      (blank : ∀ c ∈ space, isSpace c = true) (spelled : token.Spelling spelling)
      (behind : Laid tokens text) : Laid (token :: tokens) (space ++ spelling ++ text)

/-- The comma before every item and field but the first. -/
def separator (first : Bool) : List Token := if first then [] else [.comma]

mutual

/-- The tokens of a value. -/
def tokens : Value → List Token
  | .null => [.null]
  | .bool value => [.bool value]
  | .whole value => [.whole value]
  | .string text => [.text text]
  | .list items => .openList :: itemTokens true items
  | .object fields => .openObject :: fieldTokens true fields

/-- The tokens of items up to the end of their list. -/
def itemTokens (first : Bool) : List Value → List Token
  | [] => [.closeList]
  | item :: rest => separator first ++ tokens item ++ itemTokens false rest

/-- The tokens of fields up to the end of their object. -/
def fieldTokens (first : Bool) : List (String × Value) → List Token
  | [] => [.closeObject]
  | (key, value) :: rest =>
    separator first ++ .text key :: .colon :: tokens value ++ fieldTokens false rest

end

mutual

/-- Whether the numbers in a value fit 64 bits. -/
def Fits : Value → Prop
  | .whole value => value < Nat.pow 2 64
  | .list items => ItemsFit items
  | .object fields => FieldsFit fields
  | .null | .bool _ | .string _ => True

/-- Whether the numbers in items fit 64 bits. -/
def ItemsFit : List Value → Prop
  | [] => True
  | item :: rest => Fits item ∧ ItemsFit rest

/-- Whether the numbers in fields fit 64 bits. -/
def FieldsFit : List (String × Value) → Prop
  | [] => True
  | (_, value) :: rest => Fits value ∧ FieldsFit rest

end

variable {token : Token}

theorem blank_nil : ∀ c ∈ ([] : List Char), isSpace c = true := by simp

private theorem blank_single : ∀ c ∈ [' '], isSpace c = true := by simp [isSpace]

private theorem blank_newLine (depth : Nat) : ∀ c ∈ newLine depth, isSpace c = true := by
  intro c member
  rcases List.mem_cons.mp member with rfl | space
  · rfl
  · rw [List.eq_of_mem_replicate space]
    rfl

/-- A token right behind what stands before it. -/
theorem Laid.tight {all : List Token} {spelling rest : List Char}
    (spelled : token.Spelling spelling) (behind : Laid all rest) :
    Laid (token :: all) (spelling ++ rest) :=
  .next blank_nil spelled behind

/-- A text with space in front of it. -/
theorem Laid.spaced {all : List Token} {space rest : List Char}
    (blank : ∀ c ∈ space, isSpace c = true) (behind : Laid all rest) :
    Laid all (space ++ rest) := by
  cases behind with
  | done blankRest =>
    refine .done fun c member => ?_
    rcases List.mem_append.mp member with front | back
    · exact blank c front
    · exact blankRest c back
  | @next _ _ between spelling rest blankBetween spelled others =>
    rw [← List.append_assoc, ← List.append_assoc]
    refine .next (fun c member => ?_) spelled others
    rcases List.mem_append.mp member with front | back
    · exact blank c front
    · exact blankBetween c back

private theorem spelling_quoteChars (content : String) :
    Token.Spelling (.text content) (quoteChars content) :=
  .text (escaped_spelling content.toList)

/-- A key with its colon in front of a value. -/
theorem laid_field (key : String) {all : List Token} {rest : List Char} (behind : Laid all rest) :
    Laid (.text key :: .colon :: all) (quoteChars key ++ ([':'] ++ ([' '] ++ rest))) :=
  Laid.tight (spelling_quoteChars key) (Laid.tight .colon (Laid.spaced blank_single behind))

/-- The way in which a token is written. -/
def Token.chars : Token → List Char
  | .openList => ['[']
  | .closeList => [']']
  | .openObject => ['\x7b']
  | .closeObject => ['\x7d']
  | .comma => [',']
  | .colon => [':']
  | .null => ['n', 'u', 'l', 'l']
  | .bool true => ['t', 'r', 'u', 'e']
  | .bool false => ['f', 'a', 'l', 's', 'e']
  | .whole value => Nat.toDigits 10 value
  | .text content => quoteChars content

theorem Token.spelling_chars (token : Token) : token.Spelling token.chars := by
  match token with
  | .openList => exact .openList
  | .closeList => exact .closeList
  | .openObject => exact .openObject
  | .closeObject => exact .closeObject
  | .comma => exact .comma
  | .colon => exact .colon
  | .null => exact .null
  | .bool true => exact .yes
  | .bool false => exact .no
  | .whole value => exact .whole value
  | .text content => exact spelling_quoteChars content

/-- Tokens with the same space in front of each of them. -/
theorem laid_flatMap (gap : List Char) (blank : ∀ c ∈ gap, isSpace c = true) (all : List Token) :
    Laid all (all.flatMap fun token => gap ++ token.chars) := by
  induction all with
  | nil => exact .done blank_nil
  | cons token all ih => exact .next blank token.spelling_chars ih

mutual

/-- The written text of a value is one of its texts. -/
theorem laid_chars (value : Value) (depth : Nat) {more : List Token} {rest : List Char}
    (behind : Laid more rest) : Laid (tokens value ++ more) (value.chars depth ++ rest) := by
  match value with
  | .null => exact Laid.tight .null behind
  | .bool true => exact Laid.tight .yes behind
  | .bool false => exact Laid.tight .no behind
  | .whole value => exact Laid.tight (.whole value) behind
  | .string text => exact Laid.tight (spelling_quoteChars text) behind
  | .list [] =>
    have inside := Laid.tight .openList (Laid.tight .closeList behind)
    simpa [tokens, itemTokens, Value.chars] using inside
  | .list (item :: items) =>
    have others := laid_itemChars items (depth + 1) depth behind
    have inside := Laid.spaced (blank_newLine (depth + 1)) (laid_chars item (depth + 1) others)
    simpa [tokens, itemTokens, separator, Value.chars] using Laid.tight .openList inside
  | .object [] =>
    have inside := Laid.tight .openObject (Laid.tight .closeObject behind)
    simpa [tokens, fieldTokens, Value.chars] using inside
  | .object ((key, value) :: fields) =>
    have others := laid_fieldChars fields (depth + 1) depth behind
    have inside := Laid.spaced (blank_newLine (depth + 1))
      (laid_field key (laid_chars value (depth + 1) others))
    simpa [tokens, fieldTokens, separator, Value.chars] using Laid.tight .openObject inside

private theorem laid_itemChars (items : List Value) (depth closing : Nat) {more : List Token}
    {rest : List Char} (behind : Laid more rest) :
    Laid (itemTokens false items ++ more)
      (itemChars depth items ++ (newLine closing ++ ']' :: rest)) := by
  match items with
  | [] =>
    have inside := Laid.spaced (blank_newLine closing) (Laid.tight .closeList behind)
    simpa [itemTokens, itemChars] using inside
  | item :: items =>
    have others := laid_itemChars items depth closing behind
    have inside := Laid.spaced (blank_newLine depth) (laid_chars item depth others)
    simpa [itemTokens, separator, itemChars] using Laid.tight .comma inside

private theorem laid_fieldChars (fields : List (String × Value)) (depth closing : Nat)
    {more : List Token}
    {rest : List Char} (behind : Laid more rest) :
    Laid (fieldTokens false fields ++ more)
      (fieldChars depth fields ++ (newLine closing ++ '\x7d' :: rest)) := by
  match fields with
  | [] =>
    have inside := Laid.spaced (blank_newLine closing) (Laid.tight .closeObject behind)
    simpa [fieldTokens, fieldChars] using inside
  | (key, value) :: fields =>
    have others := laid_fieldChars fields depth closing behind
    have inside := Laid.spaced (blank_newLine depth)
      (laid_field key (laid_chars value depth others))
    simpa [fieldTokens, separator, fieldChars] using Laid.tight .comma inside

end

/-- The text that is written for a value is one of its texts. -/
theorem laid_render (value : Value) : Laid (tokens value) value.render.toList := by
  have laid := laid_chars value 0 (.done blank_nil)
  simpa [Value.render] using laid

end NativeThunks.JsonTexts
