import NativeThunks.Grammar.Item

/-! The texts that stand for an identifier, a path or a type of the Rust language. Each question
takes the whole text: blanks and comments may surround the tokens, and nothing else may be left. -/
namespace NativeThunks.Grammar

/-- The body of every rule, over the rules one level deeper. -/
def step (g : Rules) : {α : Type} → Rule α → Scan α
  | _, .type plus => typeRule g plus
  | _, .bound captured constants => bound g captured constants
  | _, .expression structs => expressionRule g structs
  | _, .unary structs => unaryRule g structs
  | _, .continuation left structs base => continuationRule g left structs base
  | _, .statementExpression => statementExpressionRule g
  | _, .pattern => patternRule g
  | _, .statements => statementsRule g
  | _, .item => itemRule g

/-- The rules down to the given depth of recursion; below it nothing is accepted. -/
def toDepth : Nat → Rules
  | 0 => ⟨fun _ => failure⟩
  | depth + 1 => ⟨step (toDepth depth)⟩

mutual

/-- How many trees there are, at all levels. -/
def Tree.size : Tree → Nat
  | .group _ inner => 1 + sizes inner
  | _ => 1

/-- How many trees a list holds, at all levels. -/
def sizes : List Tree → Nat
  | [] => 0
  | tree :: rest => tree.size + sizes rest

end

/-- A depth that no text of these trees needs: a few rules stand between one tree and the next. -/
def depthFor (trees : List Tree) : Nat := 8 * (sizes trees + 1)

/-- Whether a rule takes the whole text. -/
def accepts {α : Type} (rule : Rules → Scan α) (text : String) : Bool :=
  match Tree.ofText? text with
  | some trees =>
    match (rule (toDepth (depthFor trees))).run trees with
    | some (_, []) => true
    | _ => false
  | none => false

def isIdentifier (text : String) : Bool := accepts (fun _ => identifier) text

def isPath (text : String) : Bool := accepts (path · false) text

def isType (text : String) : Bool := accepts Rules.type text

end NativeThunks.Grammar
