/-! Writing texts in TOML documents. Of the four kinds of quotes the first is taken in which the
text needs no escape and no quote could be read as its end; where there is none, double quotes with
escapes remain. -/
namespace NativeThunks.Toml

/-- What the choice of quotes looks at. -/
structure QuoteTraits where
  /-- A control character other than the tab and the line feed. -/
  control : Bool
  backslash : Bool
  lineFeed : Bool
  /-- The longest run of single quotes. -/
  singleRun : Nat
  /-- The longest run of double quotes. -/
  doubleRun : Nat
deriving DecidableEq, Repr

/-- A character that cannot stand in a document as it is. The line feed can, in some quotes. -/
def isControl (c : Char) : Bool := (c < ' ' && c != '\t' && c != '\n') || c == '\x7f'

/-- The longest run of a character in a text; the first number is the length of the run that the
text continues. -/
def longestRun (quote : Char) : Nat → List Char → Nat
  | current, [] => current
  | current, c :: rest =>
    if c = quote then longestRun quote (current + 1) rest
    else max current (longestRun quote 0 rest)

def QuoteTraits.of (text : List Char) : QuoteTraits where
  control := text.any isControl
  backslash := text.contains '\\'
  lineFeed := text.contains '\n'
  singleRun := longestRun '\'' 0 text
  doubleRun := longestRun '"' 0 text

inductive QuoteStyle where
  | basic
  | literal
  | basicLines
  | literalLines
deriving DecidableEq, Repr

/-- The quotes that a text is written in. -/
def QuoteTraits.style (traits : QuoteTraits) : QuoteStyle :=
  if !traits.control && !traits.backslash && traits.doubleRun == 0 && !traits.lineFeed then .basic
  else if !traits.control && traits.singleRun == 0 && !traits.lineFeed then .literal
  else if !traits.control && !traits.backslash && traits.doubleRun ≤ 2 then .basicLines
  else if !traits.control && traits.singleRun ≤ 2 then .literalLines
  else if traits.lineFeed then .basicLines
  else .basic

def upperHexDigit (n : Nat) : Char :=
  if n < 10 then Char.ofNat (48 + n) else Char.ofNat (55 + n)

/-- How a character other than a double quote stands between double quotes. In a text of several
lines the line feed stands for itself. -/
def escapeChar (lines : Bool) (c : Char) : List Char :=
  if c = '\x08' then ['\\', 'b']
  else if c = '\t' then ['\\', 't']
  else if c = '\n' then if lines then ['\n'] else ['\\', 'n']
  else if c = '\x0c' then ['\\', 'f']
  else if c = '\r' then ['\\', 'r']
  else if c = '\\' then ['\\', '\\']
  else if isControl c then
    ['\\', 'u', '0', '0', upperHexDigit (c.toNat / 16), upperHexDigit (c.toNat % 16)]
  else [c]

/-- A text between double quotes. So many double quotes in a row as the number says still stand for
themselves, and the next one is escaped. In a single line none does. -/
def escapeText (lines : Bool) : Nat → List Char → List Char
  | _, [] => []
  | 0, '"' :: rest => '\\' :: '"' :: escapeText lines (allowed lines) rest
  | left + 1, '"' :: rest => '"' :: escapeText lines left rest
  | _, c :: rest =>
    escapeChar lines c ++ escapeText lines (allowed lines) rest
where
  /-- How many double quotes in a row stand for themselves. -/
  allowed (lines : Bool) : Nat := if lines then 2 else 0

/-- A text in quotes of a kind. A text of several lines starts on a line of its own. -/
def quoteAs (style : QuoteStyle) (text : List Char) : List Char :=
  let start := if text.contains '\n' then ['\n'] else []
  match style with
  | .basic => '"' :: (escapeText false 0 text ++ ['"'])
  | .literal => '\'' :: (text ++ ['\''])
  | .basicLines => '"' :: '"' :: '"' :: (start ++ escapeText true 2 text ++ ['"', '"', '"'])
  | .literalLines => '\'' :: '\'' :: '\'' :: (start ++ text ++ ['\'', '\'', '\''])

def quote (text : String) : String :=
  String.ofList (quoteAs (QuoteTraits.of text.toList).style text.toList)

example : quote "::a" = "\"::a\"" := by decide +kernel
example : quote "a\\b" = "'a\\b'" := by decide +kernel
example : quote "'\"" = "\"\"\"'\"\"\"\"" := by decide +kernel

end NativeThunks.Toml
