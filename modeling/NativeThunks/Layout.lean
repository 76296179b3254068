/-! Indented text made of lines. A block is a line that opens it, the lines inside, one level
deeper, and a closing brace. -/
namespace NativeThunks

/-- One line of generated code, without its indentation. -/
inductive Line where
  | text (content : String)
  /-- A line that begins a block. -/
  | opening (content : String)
  /-- The end of the innermost block. -/
  | closing
  | blank
deriving DecidableEq, Repr

def indentation : Nat → String
  | 0 => ""
  | level + 1 => "    " ++ indentation level

/-- A text that grows line by line. -/
structure Writer where
  level : Nat := 0
  text : String := ""
deriving DecidableEq, Repr

namespace Writer

/-- An empty text whose lines start at a level. -/
def ofLevel (level : Nat) : Writer := { level := level }

def isEmpty (writer : Writer) : Bool := writer.text.isEmpty

/-- The next lines are one level deeper. -/
def indent (writer : Writer) : Writer := { writer with level := writer.level + 1 }

/-- The next lines are one level higher, as far as there is one. -/
def dedent (writer : Writer) : Writer := { writer with level := writer.level - 1 }

/-- Adds a text as it is. -/
def append (writer : Writer) (text : String) : Writer := { writer with text := writer.text ++ text }

/-- Adds a line at the current level. Only its start is indented, even if it has line feeds. -/
def line (writer : Writer) (content : String) : Writer :=
  writer.append (indentation writer.level ++ content ++ "\n")

def blank (writer : Writer) : Writer := writer.append "\n"

/-- Adds a line that begins a block. -/
def openBlock (writer : Writer) (content : String) : Writer := (writer.line content).indent

/-- Ends the innermost block. -/
def closeBlock (writer : Writer) : Writer := writer.dedent.line "\x7d"

def put (writer : Writer) : Line → Writer
  | .text content => writer.line content
  | .opening content => writer.openBlock content
  | .closing => writer.closeBlock
  | .blank => writer.blank

def putAll (writer : Writer) (lines : List Line) : Writer := lines.foldl put writer

end Writer

/-- The text of lines from a level on. -/
def render (level : Nat) (lines : List Line) : String := ((Writer.ofLevel level).putAll lines).text

example : render 0 [.opening "a \x7b", .text "b;", .closing] = "a \x7b\n    b;\n\x7d\n" := by decide

end NativeThunks
