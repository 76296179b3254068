import NativeThunks.Grammar.Scan

/-! The recursive rules of the grammar as data, and what a rule tells about the text it took. A
rule's body names other rules through `Rules`, so the bodies are plain functions and recursion
is tied in one place. -/
namespace NativeThunks.Grammar

structure PathForm where
  /-- It begins with a double colon. -/
  rooted : Bool
  segments : Nat
  /-- No segment has arguments. -/
  plain : Bool
  /-- The last segment has no arguments, or an empty list of them. -/
  lastOpen : Bool

/-- What a type looks like, as far as the rules around it ask. -/
inductive TypeForm where
  /-- A path that does not start from a type in angle brackets. -/
  | path (form : PathForm)
  /-- A sum of bounds, and whether `dyn` begins it and a plus sign ends it. -/
  | bounds (marked : Bool) (count : Nat) (trailing : Bool)
  /-- A macro call, and whether braces end it. -/
  | macroCall (braces : Bool)
  | other

inductive BoundForm where
  | lifetime
  | trait
  | capture
  | constant
deriving DecidableEq

/-- What an expression looks like, as far as the rules around it ask. -/
inductive ExprShape where
  | range
  | comparison
  /-- A macro call, and whether braces end it. -/
  | macroCall (braces : Bool)
  /-- A block or a control structure, which needs no separator behind it. -/
  | block
  | other
deriving DecidableEq

/-- An expression's shape, and whether a brace closes it. -/
structure ExprForm where
  shape : ExprShape
  braceLast : Bool

inductive PatternForm where
  /-- Two dots alone. -/
  | rest
  /-- A range without one of its ends. -/
  | openRange
  | other
deriving DecidableEq

/-- How tightly a binary operator binds, loosest first. -/
inductive Precedence where
  | jump
  | assign
  | range
  | disjunction
  | conjunction
  | binding
  | compare
  | bitOr
  | bitXor
  | bitAnd
  | shift
  | sum
  | product
  | cast
deriving DecidableEq

def Precedence.rank : Precedence → Nat
  | .jump => 0
  | .assign => 1
  | .range => 2
  | .disjunction => 3
  | .conjunction => 4
  | .binding => 5
  | .compare => 6
  | .bitOr => 7
  | .bitXor => 8
  | .bitAnd => 9
  | .shift => 10
  | .sum => 11
  | .product => 12
  | .cast => 13

/-- The rules that other rules call, with what each tells about its text. -/
inductive Rule : Type → Type where
  /-- A type; a sum of bounds only where a plus sign is welcome. -/
  | type (plus : Bool) : Rule TypeForm
  /-- One bound; captured names and bounds on constants only where they are welcome. -/
  | bound (captured constants : Bool) : Rule BoundForm
  /-- An expression; a struct literal only where a brace is welcome. -/
  | expression (structs : Bool) : Rule ExprForm
  /-- An operand with its prefix operators. -/
  | unary (structs : Bool) : Rule ExprForm
  /-- What follows a left operand, down to a precedence. -/
  | continuation (left : ExprForm) (structs : Bool) (base : Precedence) : Rule ExprForm
  /-- An expression where a statement stands: a leading block ends it. -/
  | statementExpression : Rule ExprForm
  /-- One pattern without alternatives. -/
  | pattern : Rule PatternForm
  /-- The statements of a block, to its end. -/
  | statements : Rule Unit
  /-- An item behind its attributes. -/
  | item : Rule Unit

/-- The rules at some depth of recursion. -/
structure Rules where
  rule : {α : Type} → Rule α → Scan α

namespace Rules
variable (g : Rules)

/-- A type where a sum of bounds is welcome. -/
def type : Scan TypeForm := g.rule (.type true)

/-- A type where a plus sign ends it. -/
def tightType : Scan TypeForm := g.rule (.type false)

/-- An expression where a struct literal is welcome. -/
def expression : Scan ExprForm := g.rule (.expression true)

/-- One bound of a generic parameter or a constraint. -/
def parameterBound : Scan Unit := do
  let _ ← g.rule (.bound false true)

end Rules
end NativeThunks.Grammar
