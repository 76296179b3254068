/-! Paths as text: steps between slashes. Empty steps and single dots lead nowhere. -/
namespace NativeThunks.Files

/-- The pieces between the slashes of a path. -/
def pieces (path : List Char) : List (List Char) :=
  go path []
where
  /-- Splits the rest of a path behind the reversed beginning of a piece. -/
  go : List Char → List Char → List (List Char)
    | [], piece => [piece.reverse]
    | '/' :: rest, piece => piece.reverse :: go rest []
    | c :: rest, piece => go rest (c :: piece)

/-- Whether a piece leads nowhere. -/
def isIdle (piece : List Char) : Bool := piece == [] || piece == ['.']

/-- Pieces without the idle ones at the end. The first piece stays. -/
def trimmed : List (List Char) → List (List Char)
  | [] => []
  | first :: rest => first :: (rest.reverse.dropWhile isIdle).reverse

/-- The path of the folder that a path lies in. The empty path and the topmost folder lie in
none. -/
def parent? (path : String) : Option String :=
  let pieces := trimmed (pieces path.toList)
  if pieces = [[]] then none
  else
    match trimmed pieces.dropLast with
    | [] => some ""
    | [[]] => some "/"
    | folder => some (String.ofList (['/'].intercalate folder))

/-- The path of a name in a folder. A name that is a path from the top stands for itself. -/
def join (folder name : String) : String :=
  if name.toList.head? = some '/' ∨ folder = "" then name
  else if folder.toList.getLast? = some '/' then folder ++ name
  else folder ++ "/" ++ name

/-- The way that a path leads. -/
structure Route where
  /-- Whether the path starts at the top. -/
  absolute : Bool
  /-- The names on the way. A single dot stays where it is, and two lead back. -/
  steps : List String
  /-- Whether the end has to be a folder, as before a final slash. -/
  folderOnly : Bool
deriving DecidableEq, Repr

def Route.ofPath (path : String) : Route :=
  let all := pieces path.toList
  { absolute := path.toList.head? = some '/'
    steps := (all.filter (· != [])).map String.ofList
    folderOnly := all.getLast? = some [] }

example : parent? "d.json" = some "" ∧ parent? "a/b.json" = some "a" := by decide
example : (Route.ofPath "a//./b/").steps = ["a", ".", "b"] := by decide
example : join "out" "x" = "out/x" ∧ join "" "x" = "x" ∧ join "out/" "x" = "out/x" := by decide

end NativeThunks.Files
