import NativeThunks.Grammar.Token

/-! The literals of Rust source text. Each scanner takes the text from its first character on and
answers the text behind the literal, or nothing if no such literal stands there. -/
namespace NativeThunks.Grammar
open NativeThunks.Text

/-- A character that begins a word: the underscore, or the start of an identifier. -/
def isWordStart (c : Char) : Bool := c == '_' || isIdentifierStart c

/-- The word at the front of the text, and the text behind it. -/
def takeWord? : List Char → Option (List Char × List Char)
  | c :: rest =>
    if isWordStart c then
      some (c :: rest.takeWhile isIdentifierContinue, rest.dropWhile isIdentifierContinue)
    else none
  | [] => none

/-- A literal may carry a word directly behind it. -/
def dropSuffix (text : List Char) : List Char :=
  match takeWord? text with
  | some (_, rest) => rest
  | none => text

/-- The value of a hexadecimal digit. -/
def hexValue? (c : Char) : Option Nat :=
  if '0' ≤ c ∧ c ≤ '9' then some (c.toNat - '0'.toNat)
  else if 'a' ≤ c ∧ c ≤ 'f' then some (10 + (c.toNat - 'a'.toNat))
  else if 'A' ≤ c ∧ c ≤ 'F' then some (10 + (c.toNat - 'A'.toNat))
  else none

/-- Whether a number is the code of a character. -/
def isCharacterCode (n : Nat) : Bool := n < 0xd800 || (0xdfff < n && n < 0x110000)

/-- The digits between the braces of a numbered character: one to six, with underscores after the
first. Answers the code and the text behind the closing brace. -/
def bracedCode? (count value : Nat) : List Char → Option (Nat × List Char)
  | [] => none
  | '}' :: rest => if 0 < count ∧ isCharacterCode value then some (value, rest) else none
  | '_' :: rest => if 0 < count then bracedCode? count value rest else none
  | c :: rest =>
    match hexValue? c with
    | some digit => if count < 6 then bracedCode? (count + 1) (value * 16 + digit) rest else none
    | none => none

/-- The three kinds of quoted text, which differ in their escapes. -/
inductive QuoteKind where
  | text
  | bytes
  | nulTerminated
deriving DecidableEq, Repr

/-- Whether a bare character may stand in this kind of quoted text. -/
def QuoteKind.admits (kind : QuoteKind) (c : Char) : Bool :=
  match kind with
  | .text => true
  | .bytes => c.toNat < 128
  | .nulTerminated => c != '\x00'

/-- Whether a two-digit numbered escape is good: ASCII in text, any byte in bytes, any byte but
zero in text that a zero byte ends. -/
def QuoteKind.admitsHex (kind : QuoteKind) (high low : Char) : Bool :=
  match hexValue? high, hexValue? low with
  | some h, some l =>
    match kind with
    | .text => h < 8
    | .bytes => true
    | .nulTerminated => h * 16 + l != 0
  | _, _ => false

/-- Whether a one-letter escape is good. -/
def QuoteKind.admitsEscape (kind : QuoteKind) (c : Char) : Bool :=
  c ∈ ['n', 'r', 't', '\\', '\'', '"'] || (c == '0' && kind != .nulTerminated)

/-- Quoted text up to its closing quote. After a backslash at the end of a line the blanks that
follow are skipped. A carriage return stands only before a line feed. Fuel bounds the number of
steps; each takes a character. -/
def quoted? (kind : QuoteKind) : Nat → Bool → List Char → Option (List Char)
  | 0, _, _ => none
  | _ + 1, _, [] => none
  | fuel + 1, skipping, c :: rest =>
    if skipping && (c == ' ' || c == '\t' || c == '\n') then quoted? kind fuel true rest
    else if c == '\r' then
      match rest with
      | '\n' :: rest => quoted? kind fuel skipping rest
      | _ => none
    else if c == '"' then some (dropSuffix rest)
    else if c == '\\' then
      match rest with
      | 'x' :: high :: low :: rest =>
        if kind.admitsHex high low then quoted? kind fuel false rest else none
      | 'u' :: '{' :: rest =>
        match bracedCode? 0 0 rest with
        | some (code, rest) =>
          if kind = .bytes ∨ (kind = .nulTerminated ∧ code = 0) then none
          else quoted? kind fuel false rest
        | none => none
      | '\n' :: rest => quoted? kind fuel true rest
      | '\r' :: '\n' :: rest => quoted? kind fuel true rest
      | e :: rest => if kind.admitsEscape e then quoted? kind fuel false rest else none
      | [] => none
    else if kind.admits c then quoted? kind fuel false rest
    else none

/-- Raw text up to a quote followed by the given number of hash marks. -/
def rawBody? (kind : QuoteKind) (hashes : Nat) : List Char → Option (List Char)
  | [] => none
  | '\r' :: '\n' :: rest => rawBody? kind hashes rest
  | '\r' :: _ => none
  | c :: rest =>
    if c == '"' && rest.take hashes == List.replicate hashes '#' then
      some (dropSuffix (rest.drop hashes))
    else if kind.admits c then rawBody? kind hashes rest
    else none

/-- Raw text from its hash marks on; at most 255 of them. -/
def rawQuoted? (kind : QuoteKind) (text : List Char) : Option (List Char) :=
  match text.dropWhile (· == '#') with
  | '"' :: rest =>
    let hashes := (text.takeWhile (· == '#')).length
    if hashes ≤ 255 then rawBody? kind hashes rest else none
  | _ => none

/-- What may stand between the quotes of a byte: an escape or one ASCII character. -/
def byteBody? : List Char → Option (List Char)
  | '\\' :: 'x' :: high :: low :: rest =>
    if QuoteKind.bytes.admitsHex high low then some rest else none
  | '\\' :: e :: rest => if QuoteKind.bytes.admitsEscape e then some rest else none
  | '\\' :: [] => none
  | c :: rest => if c.toNat < 128 then some rest else none
  | [] => none

/-- What may stand between the quotes of a character: an escape or any one character. -/
def characterBody? : List Char → Option (List Char)
  | '\\' :: 'x' :: high :: low :: rest =>
    if QuoteKind.text.admitsHex high low then some rest else none
  | '\\' :: 'u' :: '{' :: rest => (bracedCode? 0 0 rest).map (·.2)
  | '\\' :: e :: rest => if QuoteKind.text.admitsEscape e then some rest else none
  | '\\' :: [] => none
  | _ :: rest => some rest
  | [] => none

/-- The closing quote of a byte or character, with an optional suffix. -/
def closeQuote? : List Char → Option (List Char)
  | '\'' :: rest => some (dropSuffix rest)
  | _ => none

/-- The part of an exponent behind its letter. `before` is the text to go back to if no exponent
stands here. -/
def exponent? (before : Option (List Char)) (sign value : Bool) :
    List Char → Option (List Char)
  | [] => if value then some [] else before
  | c :: rest =>
    if (c == '+' || c == '-') && !value then
      if sign then before else exponent? before true value rest
    else if c.isDigit then exponent? before sign true rest
    else if c == '_' then exponent? before sign value rest
    else if value then some (c :: rest)
    else before

/-- The digits of a fraction behind its first one: it needs a point or an exponent. A point is part
of the number only if neither another point nor a word follows it. -/
def fractionDigits? (point : Bool) : List Char → Option (List Char)
  | [] => if point then some [] else none
  | c :: rest =>
    if c.isDigit || c == '_' then fractionDigits? point rest
    else if c == '.' then
      if point then some (c :: rest)
      else
        match rest with
        | next :: _ => if next == '.' || isWordStart next then none else fractionDigits? true rest
        | [] => some []
    else if c == 'e' || c == 'E' then
      exponent? (if point then some (c :: rest) else none) false false rest
    else if point then some (c :: rest)
    else none

/-- A number may carry a word directly behind it, and must then end. -/
def numberEnd? (rest : List Char) : Option (List Char) :=
  let rest := dropSuffix rest
  match rest with
  | c :: _ => if isIdentifierContinue c then none else some rest
  | [] => some rest

/-- A number with a point or an exponent. -/
def fraction? : List Char → Option (List Char)
  | c :: rest => if c.isDigit then (fractionDigits? false rest).bind numberEnd? else none
  | [] => none

/-- The digits of a whole number in a base. A decimal digit too large for the base spoils the
number; a letter too large ends it. `empty` says that no digit has been seen. -/
def wholeDigits? (base : Nat) (empty : Bool) : List Char → Option (List Char)
  | [] => if empty then none else some []
  | c :: rest =>
    if c == '_' then
      if empty && base == 10 then none else wholeDigits? base empty rest
    else
      match hexValue? c with
      | some digit =>
        if digit < base then wholeDigits? base false rest
        else if c.isDigit || empty then none
        else some (c :: rest)
      | none => if empty then none else some (c :: rest)

/-- A whole number, decimal or with a base mark. -/
def whole? (text : List Char) : Option (List Char) :=
  let digits :=
    match text with
    | '0' :: 'x' :: rest => wholeDigits? 16 true rest
    | '0' :: 'o' :: rest => wholeDigits? 8 true rest
    | '0' :: 'b' :: rest => wholeDigits? 2 true rest
    | _ => wholeDigits? 10 true text
  digits.bind numberEnd?

/-- The part of the text before a rest of it. -/
def consumed (text rest : List Char) : String :=
  String.ofList (text.take (text.length - rest.length))

/-- The literal at the front of the text, if one stands there, and the text behind it. -/
def literal? (text : List Char) : Option (Literal × List Char) :=
  let steps := text.length
  let body : Option (Literal × List Char) :=
    match text with
    | '"' :: rest => (quoted? .text steps false rest).map (.text, ·)
    | 'r' :: rest => (rawQuoted? .text rest).map (.text, ·)
    | 'b' :: '"' :: rest => (quoted? .bytes steps false rest).map (.bytes, ·)
    | 'b' :: 'r' :: rest => (rawQuoted? .bytes rest).map (.bytes, ·)
    | 'c' :: '"' :: rest => (quoted? .nulTerminated steps false rest).map (.nulTerminated, ·)
    | 'c' :: 'r' :: rest => (rawQuoted? .nulTerminated rest).map (.nulTerminated, ·)
    | 'b' :: '\'' :: rest => ((byteBody? rest).bind closeQuote?).map (.byte, ·)
    | '\'' :: rest => ((characterBody? rest).bind closeQuote?).map (.character, ·)
    | _ => none
  match body with
  | some found => some found
  | none =>
    match fraction? text with
    | some rest => some (.fraction (consumed text rest), rest)
    | none => (whole? text).map fun rest => (.integer (consumed text rest), rest)

end NativeThunks.Grammar
