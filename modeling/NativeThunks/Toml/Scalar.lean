import NativeThunks.Toml.Item

/-! The scalar values of TOML documents: texts in their four kinds of quotes, numbers, and dates
and times. Each function takes a value from the front of the text and gives the rest. -/
namespace NativeThunks.Toml
open NativeThunks.Decimal

/-! Texts -/

/-- A character that stands for itself in a line: no control character other than the tab. -/
def isPlain (c : Char) : Bool := c == '\t' || (' ' ≤ c && c != '\x7f')

def hexValue? (c : Char) : Option Nat :=
  if '0' ≤ c ∧ c ≤ '9' then some (c.toNat - 48)
  else if 'a' ≤ c ∧ c ≤ 'f' then some (c.toNat - 87)
  else if 'A' ≤ c ∧ c ≤ 'F' then some (c.toNat - 55)
  else none

def hexNumber? (digits : List Char) : Option Nat :=
  digits.foldlM (fun value c => (hexValue? c).map (16 * value + ·)) 0

def charAt? (digits : List Char) : Option Char := do
  let point ← hexNumber? digits
  if point.isValidChar then return Char.ofNat point else none

/-- The character that a single letter stands for behind a backslash. -/
def escaped? : Char → Option Char
  | 'b' => some '\x08'
  | 't' => some '\t'
  | 'n' => some '\n'
  | 'f' => some '\x0c'
  | 'r' => some '\r'
  | '"' => some '"'
  | '\\' => some '\\'
  | _ => none

/-- A character before the others that are taken. -/
def cons? (c : Char) (taken : Option (List Char × List Char)) : Option (List Char × List Char) :=
  taken.map fun (text, rest) => (c :: text, rest)

/-- A text in double quotes, behind the opening one. -/
def basicText : List Char → Option (List Char × List Char)
  | '\\' :: 'u' :: a :: b :: c :: d :: rest => do
    cons? (← charAt? [a, b, c, d]) (basicText rest)
  | '\\' :: 'U' :: a :: b :: c :: d :: e :: f :: g :: h :: rest => do
    cons? (← charAt? [a, b, c, d, e, f, g, h]) (basicText rest)
  | '\\' :: c :: rest => do cons? (← escaped? c) (basicText rest)
  | '"' :: rest => some ([], rest)
  | c :: rest => if isPlain c then cons? c (basicText rest) else none
  | [] => none

/-- A text in single quotes, behind the opening one. -/
def literalText : List Char → Option (List Char × List Char)
  | '\'' :: rest => some ([], rest)
  | c :: rest => if isPlain c then cons? c (literalText rest) else none
  | [] => none

/-- Up to two quotes stand right before the three that close a text of several lines. -/
def closing (quote : Char) : List Char → List Char × List Char
  | a :: b :: rest =>
    if a = quote then if b = quote then ([quote, quote], rest) else ([quote], b :: rest)
    else ([], a :: b :: rest)
  | [a] => if a = quote then ([quote], []) else ([], [a])
  | [] => ([], [])

/-- Whether only blanks are left in the line, which must end. -/
def blankToLineEnd : List Char → Bool
  | ' ' :: rest | '\t' :: rest => blankToLineEnd rest
  | '\n' :: _ | '\r' :: '\n' :: _ => true
  | _ => false

/-- A text in three double quotes, behind the opening ones and the line end that may follow them.
A backslash at the end of a line drops all blanks and line ends up to the next other character;
the flag says that this is going on. -/
def basicLines : Bool → List Char → Option (List Char × List Char)
  | true, ' ' :: rest | true, '\t' :: rest | true, '\n' :: rest | true, '\r' :: '\n' :: rest =>
    basicLines true rest
  | _, '"' :: '"' :: '"' :: rest => some (closing '"' rest)
  | _, '\\' :: 'u' :: a :: b :: c :: d :: rest => do
    cons? (← charAt? [a, b, c, d]) (basicLines false rest)
  | _, '\\' :: 'U' :: a :: b :: c :: d :: e :: f :: g :: h :: rest => do
    cons? (← charAt? [a, b, c, d, e, f, g, h]) (basicLines false rest)
  | _, '\\' :: c :: rest =>
    match escaped? c with
    | some c => cons? c (basicLines false rest)
    | none => if blankToLineEnd (c :: rest) then basicLines true (c :: rest) else none
  | _, '\n' :: rest | _, '\r' :: '\n' :: rest => cons? '\n' (basicLines false rest)
  | _, c :: rest => if isPlain c then cons? c (basicLines false rest) else none
  | _, [] => none

/-- A text in three single quotes, behind the opening ones and the line end that may follow them. -/
def literalLines : List Char → Option (List Char × List Char)
  | '\'' :: '\'' :: '\'' :: rest => some (closing '\'' rest)
  | '\n' :: rest | '\r' :: '\n' :: rest => cons? '\n' (literalLines rest)
  | c :: rest => if isPlain c then cons? c (literalLines rest) else none
  | [] => none

/-- The line end that may stand right behind three opening quotes. -/
def dropLineEnd : List Char → List Char
  | '\n' :: rest | '\r' :: '\n' :: rest => rest
  | text => text

def quotedText? : List Char → Option (List Char × List Char)
  | '"' :: '"' :: '"' :: rest => basicLines false (dropLineEnd rest)
  | '"' :: rest => basicText rest
  | '\'' :: '\'' :: '\'' :: rest => literalLines (dropLineEnd rest)
  | '\'' :: rest => literalText rest
  | _ => none

/-! Numbers -/

/-- Digits behind a first one; an underscore may stand between two of them. -/
def moreDigits (isDigit : Char → Bool) : List Char → Option (List Char × List Char)
  | '_' :: c :: rest => if isDigit c then cons? c (moreDigits isDigit rest) else none
  | ['_'] => none
  | c :: rest => if isDigit c then cons? c (moreDigits isDigit rest) else some ([], c :: rest)
  | [] => some ([], [])

/-- One digit or more. -/
def digits? (isDigit : Char → Bool) : List Char → Option (List Char × List Char)
  | c :: rest => if isDigit c then cons? c (moreDigits isDigit rest) else none
  | [] => none

/-- The digits of a whole number: a zero stands alone. -/
def wholeDigits? : List Char → Option (List Char × List Char)
  | '0' :: rest => some (['0'], rest)
  | text => digits? Char.isDigit text

/-- The value of digits in a base up to sixteen. -/
def number? (base : Nat) (digits : List Char) : Option Nat :=
  digits.foldlM (fun value c => (hexValue? c).map (base * value + ·)) 0

/-- A whole number, if it fits 64 bits with a sign. -/
def integer? (value : Int) : Option Item :=
  if -9223372036854775808 ≤ value ∧ value ≤ 9223372036854775807 then some (.integer value)
  else none

/-- A value in another base, behind its mark. -/
def based? (base : Nat) (isDigit : Char → Bool) (text : List Char) :
    Option (Item × List Char) := do
  let (digits, rest) ← digits? isDigit text
  return (← integer? (← number? base digits), rest)

/-- The number `mantissa * 10 ^ exponent`. Beyond the format's range nothing has to be computed. A
positive number that is too large is refused, a negative one becomes infinite. -/
def real? (below : Bool) (mantissa : Nat) (exponent : Int) : Option Item :=
  let size : Int := (digitCount mantissa : Int) + exponent
  let value :=
    if mantissa = 0 ∨ size < -400 then some Binary64.zero
    else if 400 < size then none
    else if 0 ≤ exponent then Binary64.ofRatio? (mantissa * Nat.pow 10 exponent.toNat) 1
    else Binary64.ofRatio? mantissa (Nat.pow 10 (-exponent).toNat)
  match value with
  | some value => some (.real (.finite below value))
  | none => if below then some (.real (.infinite true)) else none

/-- The exponent at the front of the text, or zero where there is none. -/
def exponent? (text : List Char) : Option (Option Int × List Char) :=
  match text with
  | c :: rest =>
    if c = 'e' ∨ c = 'E' then do
      let (below, rest) :=
        match rest with
        | '-' :: rest => (true, rest)
        | '+' :: rest => (false, rest)
        | _ => (false, rest)
      let (digits, rest) ← digits? Char.isDigit rest
      let value : Int := ← number? 10 digits
      return (some (if below then -value else value), rest)
    else some (none, text)
  | [] => some (none, text)

/-- A number behind its sign. -/
def unsigned? (below : Bool) (text : List Char) : Option (Item × List Char) :=
  match text with
  | 'i' :: 'n' :: 'f' :: rest => some (.real (.infinite below), rest)
  | 'n' :: 'a' :: 'n' :: rest => some (.real .undefined, rest)
  | _ => do
    let (whole, rest) ← wholeDigits? text
    let (fraction, rest) ←
      match rest with
      | '.' :: rest => (digits? Char.isDigit rest).map fun (found, rest) => (some found, rest)
      | _ => some (none, rest)
    let (exponent, rest) ← exponent? rest
    match fraction, exponent with
    | none, none =>
      let value : Int := ← number? 10 whole
      return (← integer? (if below then -value else value), rest)
    | _, _ =>
      let fraction := fraction.getD []
      let mantissa ← number? 10 (whole ++ fraction)
      return (← real? below mantissa (exponent.getD 0 - fraction.length), rest)

/-- A number. The marks of other bases stand at its very start. -/
def number : List Char → Option (Item × List Char)
  | '0' :: 'x' :: rest => based? 16 (fun c => (hexValue? c).isSome) rest
  | '0' :: 'o' :: rest => based? 8 (fun c => '0' ≤ c && c ≤ '7') rest
  | '0' :: 'b' :: rest => based? 2 (fun c => c == '0' || c == '1') rest
  | '+' :: rest => unsigned? false rest
  | '-' :: rest => unsigned? true rest
  | text => unsigned? false text

/-! Dates and times -/

/-- Two digits whose value lies between two bounds. -/
def twoDigits? (least greatest : Nat) : List Char → Option (Nat × List Char)
  | a :: b :: rest =>
    if a.isDigit && b.isDigit then
      let value := 10 * (a.toNat - 48) + (b.toNat - 48)
      if least ≤ value ∧ value ≤ greatest then some (value, rest) else none
    else none
  | _ => none

def daysIn (year month : Nat) : Nat :=
  match month with
  | 2 => if year % 4 = 0 ∧ (year % 100 ≠ 0 ∨ year % 400 = 0) then 29 else 28
  | 4 | 6 | 9 | 11 => 30
  | _ => 31

def char? (c : Char) : List Char → Option (List Char)
  | d :: rest => if d = c then some rest else none
  | [] => none

/-- The text behind a date. -/
def date? (text : List Char) : Option (List Char) := do
  let (century, rest) ← twoDigits? 0 99 text
  let (years, rest) ← twoDigits? 0 99 rest
  let (month, rest) ← twoDigits? 1 12 (← char? '-' rest)
  let (day, rest) ← twoDigits? 1 31 (← char? '-' rest)
  if day ≤ daysIn (100 * century + years) month then return rest else none

/-- The text behind a time of day; a minute may have 61 seconds. -/
def clock? (text : List Char) : Option (List Char) := do
  let (_, rest) ← twoDigits? 0 23 text
  let (_, rest) ← twoDigits? 0 59 (← char? ':' rest)
  let (_, rest) ← twoDigits? 0 60 (← char? ':' rest)
  match rest with
  | '.' :: fraction =>
    if (fraction.takeWhile Char.isDigit).isEmpty then return rest
    else return fraction.dropWhile Char.isDigit
  | _ => return rest

/-- The text behind the distance from universal time. -/
def zone? : List Char → Option (List Char)
  | 'Z' :: rest | 'z' :: rest => some rest
  | '+' :: rest | '-' :: rest => do
    let (_, rest) ← twoDigits? 0 23 rest
    let (_, rest) ← twoDigits? 0 59 (← char? ':' rest)
    return rest
  | _ => none

/-- The text behind a date, a time, or both. -/
def time? (text : List Char) : Option (List Char) :=
  match date? text with
  | none => clock? text
  | some rest =>
    match rest with
    | c :: clock =>
      if c = 'T' ∨ c = 't' ∨ c = ' ' then
        match clock? clock with
        | some behind => some ((zone? behind).getD behind)
        | none => some rest
      else some rest
    | [] => some rest

end NativeThunks.Toml
