import NativeThunks.Grammar.Literal

/-! From text to token trees. Blanks and comments between tokens are skipped; a documentation
comment stands for an attribute and is kept as its tokens. -/
namespace NativeThunks.Grammar
open NativeThunks.Text

/-- Blanks between tokens: white space, and the two direction marks. -/
def isBlank (c : Char) : Bool := isWhiteSpace c || c == '\u200e' || c == '\u200f'

/-- The characters that are punctuation by themselves. -/
def isPunctuation (c : Char) : Bool :=
  c ∈ ['~', '!', '@', '#', '$', '%', '^', '&', '*', '-', '=', '+', '|', ';', ':', ',', '<', '.',
    '>', '/', '?', '\'']

def startsComment : List Char → Bool
  | '/' :: '/' :: _ => true
  | '/' :: '*' :: _ => true
  | _ => false

/-- Whether punctuation begins here; the slash of a comment is none. -/
def startsPunctuation (text : List Char) : Bool :=
  match text with
  | c :: _ => isPunctuation c && !startsComment text
  | [] => false

/-- The text behind a block comment of the given depth. Block comments nest; an open one is an
error. -/
def dropBlock? : Nat → List Char → Option (List Char)
  | _, [] => none
  | depth, '/' :: '*' :: rest => dropBlock? (depth + 1) rest
  | depth, '*' :: '/' :: rest => if depth ≤ 1 then some rest else dropBlock? (depth - 1) rest
  | depth, _ :: rest => dropBlock? depth rest

/-- Whether a carriage return stands without its line feed. -/
def hasBareReturn : List Char → Bool
  | [] => false
  | '\r' :: '\n' :: rest => hasBareReturn rest
  | '\r' :: _ => true
  | _ :: rest => hasBareReturn rest

/-- The text of a line comment, without a carriage return at the end of its line. -/
def lineText (text : List Char) : List Char :=
  let line := text.takeWhile (· != '\n')
  if line.length < text.length ∧ line.getLast? = some '\r' then line.dropLast else line

/-- A documentation comment as an attribute. -/
def documentation (inner : Bool) : List Lexeme :=
  [.leaf (.mark '#' false)] ++ (if inner then [.leaf (.mark '!' false)] else []) ++
    [.opening .bracket, .leaf (.word "doc"), .leaf (.mark '=' false), .leaf (.literal .text),
      .closing .bracket]

/-- What stands at the front of the text when it is a comment or blank: the lexemes that it means
and the text behind it. -/
def trivia? (text : List Char) : Option (List Lexeme × List Char) :=
  match text with
  | '/' :: '/' :: rest =>
    let outer := rest.head? = some '/' ∧ (rest.drop 1).head? ≠ some '/'
    let inner := rest.head? = some '!'
    if outer ∨ inner then
      let body := rest.drop 1
      if hasBareReturn (lineText body) then none
      else some (documentation inner, body.dropWhile (· != '\n'))
    else some ([], rest.dropWhile (· != '\n'))
  | '/' :: '*' :: rest =>
    if rest.take 2 = ['*', '/'] then some ([], rest.drop 2)
    else
      let outer := rest.head? = some '*' ∧ (rest.drop 1).head? ≠ some '*'
      let inner := rest.head? = some '!'
      match dropBlock? 1 rest with
      | some behind =>
        if outer ∨ inner then
          let body := (rest.drop 1).take (rest.length - 1 - behind.length - 2)
          if hasBareReturn body then none else some (documentation inner, behind)
        else some ([], behind)
      | none => none
  | c :: rest => if isBlank c then some ([], rest) else none
  | [] => none

/-- Openings that belong to quoted literals, so that no word begins with them. -/
def startsQuotedLiteral (text : List Char) : Bool :=
  [['r', '"'], ['r', '#', '"'], ['r', '#', '#'], ['b', '"'], ['b', '\''], ['b', 'r', '"'],
    ['b', 'r', '#'], ['c', '"'], ['c', 'r', '"'], ['c', 'r', '#']].any (·.isPrefixOf text)

/-- The words that have no raw spelling. -/
def unrawableWords : List String := ["_", "super", "self", "Self", "crate"]

/-- The word at the front of the text, raw or plain, and the text behind it. -/
def takeAnyWord? : List Char → Option (String × List Char)
  | 'r' :: '#' :: rest =>
    match takeWord? rest with
    | some (word, rest) =>
      let word := String.ofList word
      if word ∈ unrawableWords then none else some ("r#" ++ word, rest)
    | none => none
  | text =>
    match takeWord? text with
    | some (word, rest) => some (String.ofList word, rest)
    | none => none

/-- A quote begins a lifetime when a word follows it that no quote and no hash mark ends. -/
def startsLifetime (behind : List Char) : Bool :=
  match takeAnyWord? behind with
  | some (_, rest) =>
    rest.head? != some '\'' && (rest.head? != some '#' || ['r', '#'].isPrefixOf behind)
  | none => false

/-- The token at the front of the text, brackets apart, and the text behind it. -/
def leaf? (text : List Char) : Option (Tree × List Char) :=
  match literal? text with
  | some (value, rest) => some (.literal value, rest)
  | none =>
    match text with
    | [] => none
    | c :: rest =>
      if c == '\'' then
        if startsLifetime rest then
          match literal? rest, takeAnyWord? rest with
          | none, some (word, behind) =>
            if startsQuotedLiteral rest then none else some (.lifetime word, behind)
          | _, _ => some (.strayQuote, rest)
        else none
      else if startsPunctuation text then some (.mark c (startsPunctuation rest), rest)
      else if startsQuotedLiteral text then none
      else (takeAnyWord? text).map fun (word, rest) => (.word word, rest)

def bracket? : Char → Option Lexeme
  | '(' => some (.opening .paren)
  | '[' => some (.opening .bracket)
  | '{' => some (.opening .brace)
  | ')' => some (.closing .paren)
  | ']' => some (.closing .bracket)
  | '}' => some (.closing .brace)
  | _ => none

/-- The text that marks a failed expansion; it is a literal and not a pair of parentheses. -/
def errorText : List Char := ['(', '/', '*', 'E', 'R', 'R', 'O', 'R', '*', '/', ')']

/-- The lexemes of a text. Fuel bounds the number of steps; each takes a character. -/
def lexemes? : Nat → List Char → Option (List Lexeme)
  | _, [] => some []
  | 0, _ :: _ => none
  | fuel + 1, c :: rest =>
    match trivia? (c :: rest) with
    | some (found, behind) => (lexemes? fuel behind).map (found ++ ·)
    | none =>
      if errorText.isPrefixOf (c :: rest) then
        (lexemes? fuel ((c :: rest).drop errorText.length)).map (.leaf (.literal .errorMark) :: ·)
      else
        match bracket? c with
        | some found => (lexemes? fuel rest).map (found :: ·)
        | none =>
          match leaf? (c :: rest) with
          | some (tree, behind) => (lexemes? fuel behind).map (.leaf tree :: ·)
          | none => none

/-- One byte order mark at the start of a text is no part of it. -/
def dropByteOrderMark : List Char → List Char
  | '\ufeff' :: rest => rest
  | text => text

/-- The token trees of a text, or nothing when it is no sequence of tokens with matched
brackets. -/
def Tree.ofText? (text : String) : Option (List Tree) :=
  let chars := dropByteOrderMark text.toList
  (lexemes? chars.length chars).bind (nest · [] [])

end NativeThunks.Grammar
