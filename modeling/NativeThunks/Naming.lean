import NativeThunks.Text.Character

/-! Names of the generated Rust items. Native names are taken as they are; only the names of Rust
functions and parameters pass through here: the change of case, the escape of reserved words, and
the bare word behind an escape. -/
namespace NativeThunks.Naming
open NativeThunks.Text

/-- What the snake-case scan remembers of the characters before it. -/
structure SnakeState where
  /-- The last character was uppercase, so the next one continues a run of capitals. -/
  afterUpper : Bool
  /-- An underscore would be redundant here: at the start, or after another underscore. -/
  afterUnderscore : Bool
deriving DecidableEq, Repr

/-- One character of the scan: the text it adds and the state after it. A hyphen or a dot becomes
an underscore unless one stands there already; the first capital of a run gets one before it. -/
def snakeStep (state : SnakeState) (c : Char) : List Char × SnakeState :=
  if c = '-' ∨ c = '.' then
    if state.afterUnderscore then ([], ⟨false, true⟩) else (['_'], ⟨false, true⟩)
  else if isUppercase c then
    if !state.afterUpper && !state.afterUnderscore then ('_' :: lowercase c, ⟨true, false⟩)
    else (lowercase c, ⟨true, false⟩)
  else ([c], ⟨false, c == '_'⟩)

/-- The scan from a given state. -/
def snakeChars : SnakeState → List Char → List Char
  | _, [] => []
  | state, c :: rest => (snakeStep state c).1 ++ snakeChars (snakeStep state c).2 rest

/-- The snake-case spelling of a member name. No underscore is added at the start, so the scan
begins as if one had been written. -/
def snakeCase (name : String) : String :=
  String.ofList (snakeChars ⟨false, true⟩ name.toList)

/-- Words that cannot stand as a plain identifier in the generated code, `gen` included, which is
reserved only in later editions of the language. -/
def reservedWords : List String := [
  "as", "break", "const", "continue", "crate", "else", "enum", "extern", "false", "fn", "for",
  "if", "impl", "in", "let", "loop", "match", "mod", "move", "mut", "pub", "ref", "return",
  "self", "Self", "static", "struct", "super", "trait", "true", "type", "unsafe", "use", "where",
  "while", "async", "await", "dyn", "abstract", "become", "box", "do", "final", "macro",
  "override", "priv", "typeof", "unsized", "virtual", "yield", "try", "gen"]

/-- The four path words, which have no raw spelling. -/
def pathWords : List String := ["self", "Self", "super", "crate"]

/-- A path word gets an underscore after it, any other reserved word the raw mark before it. -/
def escapeReserved (name : String) : String :=
  if name ∈ pathWords then name ++ "_"
  else if name ∈ reservedWords then "r#" ++ name
  else name

/-- The bare word of an identifier: one raw mark is dropped. -/
def stem (ident : String) : String :=
  match ident.toList with
  | 'r' :: '#' :: rest => String.ofList rest
  | _ => ident

end NativeThunks.Naming
