import NativeThunks.Grammar.Lexer

/-! Rules read token trees from the front and may look further ahead. The questions about what
comes next are functions of the trees; the steps that take trees fail when they do not fit. -/
namespace NativeThunks.Grammar

/-- A step of a rule: it takes trees from the front, or fails. -/
abbrev Scan := StateT (List Tree) Option

/-- Words that are no identifiers. -/
def keywords : List String := [
  "_", "abstract", "as", "async", "await", "become", "box", "break", "const", "continue", "crate",
  "do", "dyn", "else", "enum", "extern", "false", "final", "fn", "for", "if", "impl", "in", "let",
  "loop", "macro", "match", "mod", "move", "mut", "override", "priv", "pub", "ref", "return",
  "Self", "self", "static", "struct", "super", "trait", "true", "try", "type", "typeof", "unsafe",
  "unsized", "use", "virtual", "where", "while", "yield"]

def atIdentifier : List Tree → Bool
  | .word name :: _ => name ∉ keywords
  | _ => false

/-- Whether the trees begin with a word, keyword or not. -/
def atWord : List Tree → Bool
  | .word _ :: _ => true
  | _ => false

def atKeyword (word : String) : List Tree → Bool
  | .word name :: _ => name == word
  | _ => false

def atOneOf (words : List String) : List Tree → Bool
  | .word name :: _ => name ∈ words
  | _ => false

def atLifetime : List Tree → Bool
  | .lifetime _ :: _ => true
  | _ => false

/-- Whether the trees begin with a group in these brackets. -/
def atGroup (delimiter : Delimiter) : List Tree → Bool
  | .group found _ :: _ => found == delimiter
  | _ => false

/-- Whether the trees begin with these punctuation characters, joined to each other. -/
def atChars : List Char → List Tree → Bool
  | [c], .mark found _ :: _ => found == c
  | c :: more, .mark found true :: rest => found == c && atChars more rest
  | _, _ => false

def atMark (spelling : String) (trees : List Tree) : Bool := atChars spelling.toList trees

/-- Whether the trees begin with this punctuation, and not as the front of one of the longer
ones. -/
def atOnly (spelling : String) (longer : List String) (trees : List Tree) : Bool :=
  atMark spelling trees && longer.all fun other => !atMark other trees

def Literal.isNumber : Literal → Bool
  | .integer _ => true
  | .fraction _ => true
  | _ => false

/-- How many trees a literal value at the front takes: none if there is none. The two truth values
are literals, and a minus sign belongs to the number behind it. -/
def literalWidth : List Tree → Nat
  | .literal _ :: _ => 1
  | .word name :: _ => if name == "true" || name == "false" then 1 else 0
  | .mark '-' _ :: .literal value :: _ => if value.isNumber then 2 else 0
  | _ => 0

def atLiteral (trees : List Tree) : Bool := 0 < literalWidth trees

/-- What the trees ahead answer to a question. -/
def ahead (question : List Tree → Bool) : Scan Bool := do return question (← get)

def atEnd : Scan Bool := ahead List.isEmpty

def skip (count : Nat) : Scan Unit := modify (·.drop count)

/-- Takes one tree if the question about it is answered by yes. -/
def takeIf (question : List Tree → Bool) : Scan Unit := do
  if question (← get) then skip 1 else failure

def keyword (word : String) : Scan Unit := takeIf (atKeyword word)

def identifier : Scan Unit := takeIf atIdentifier

/-- Takes a word, keyword or not. -/
def anyWord : Scan Unit := takeIf atWord

def lifetime : Scan Unit := takeIf atLifetime

def mark (spelling : String) : Scan Unit := do
  if atMark spelling (← get) then skip spelling.length else failure

def literal : Scan Unit := do
  let width := literalWidth (← get)
  if 0 < width then skip width else failure

/-- Takes this keyword if it comes next, and says whether it did. -/
def keyword? (word : String) : Scan Bool := do
  if atKeyword word (← get) then skip 1; return true else return false

/-- Takes this punctuation if it comes next, and says whether it did. -/
def mark? (spelling : String) : Scan Bool := do
  if atMark spelling (← get) then skip spelling.length; return true else return false

/-- A group in these brackets, whose whole content the inner rule takes. -/
def inside {α : Type} (delimiter : Delimiter) (inner : Scan α) : Scan α := do
  match ← get with
  | .group found content :: rest =>
    if found = delimiter then
      match inner.run content with
      | some (result, []) => set rest; return result
      | _ => failure
    else failure
  | _ => failure

/-- A group in any brackets, whatever it holds. Answers whether the brackets are braces. -/
def anyGroup : Scan Bool := do
  match ← get with
  | .group found _ :: rest => set rest; return found == .brace
  | _ => failure

/-- Repeats a step that says whether to go on. Fuel bounds the number of repetitions. -/
def iterate {α : Type} (step : α → Scan (α × Bool)) : Nat → α → Scan α
  | 0, _ => failure
  | fuel + 1, state => do
    let (state, more) ← step state
    if more then iterate step fuel state else return state

/-- Repeats a step that says whether to go on and takes at least one tree when it does. -/
def loop {α : Type} (start : α) (step : α → Scan (α × Bool)) : Scan α := do
  iterate step ((← get).length + 1) start

/-- Items with separators between them, up to where the trees answer the question by yes. A
separator may follow the last item. Answers the items in order. -/
def separated {α : Type} (stop : List Tree → Bool) (separator : String) (item : Scan α) :
    Scan (List α) := do
  let found ← loop [] fun found => do
    if ← ahead stop then return (found, false)
    let next ← item
    if ← ahead stop then return (next :: found, false)
    mark separator
    return (next :: found, true)
  return found.reverse

/-- Items separated by commas, to the end. -/
def commas {α : Type} (item : Scan α) : Scan (List α) := separated List.isEmpty "," item

end NativeThunks.Grammar
