import NativeThunks.Text.Character

/-! Token trees of Rust source text: words, lifetimes, literals, punctuation characters, and groups
in matched brackets. -/
namespace NativeThunks.Grammar
open NativeThunks.Text

/-- The three kinds of matched brackets. -/
inductive Delimiter where
  | paren
  | bracket
  | brace
deriving DecidableEq, Repr

/-- What the grammar must know of a literal. Numbers keep their spelling, because a fraction may
stand for two tuple positions. -/
inductive Literal where
  | text
  | bytes
  | nulTerminated
  | byte
  | character
  | integer (spelling : String)
  | fraction (spelling : String)
  | errorMark
deriving DecidableEq, Repr

/-- One token tree. A raw identifier keeps its mark, so no keyword is ever spelled like one. A
punctuation character is joint when another follows it at once. A stray quote is one that begins no
lifetime; no rule accepts it. -/
inductive Tree where
  | word (name : String)
  | lifetime (name : String)
  | literal (value : Literal)
  | mark (char : Char) (joint : Bool)
  | strayQuote
  | group (delimiter : Delimiter) (inner : List Tree)

/-- The pieces of the text before brackets are matched. -/
inductive Lexeme where
  | opening (delimiter : Delimiter)
  | closing (delimiter : Delimiter)
  | leaf (tree : Tree)

/-- Matches the brackets. Each pending bracket remembers the trees before it, latest first, as does
the current level. -/
def nest : List Lexeme → List (Delimiter × List Tree) → List Tree → Option (List Tree)
  | [], [], level => some level.reverse
  | [], _ :: _, _ => none
  | .leaf tree :: rest, pending, level => nest rest pending (tree :: level)
  | .opening delimiter :: rest, pending, level => nest rest ((delimiter, level) :: pending) []
  | .closing _ :: _, [], _ => none
  | .closing delimiter :: rest, (opened, outer) :: pending, level =>
    if opened = delimiter then nest rest pending (.group delimiter level.reverse :: outer) else none

end NativeThunks.Grammar
