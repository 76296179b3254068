import NativeThunks.Grammar.Expression

/-! The statements of a block. -/
namespace NativeThunks.Grammar

/-- Whether a macro call in braces is the whole statement here: nothing extends it as an
expression. -/
def atMacroStatement (trees : List Tree) : Bool :=
  match wordPath.run trees with
  | some (_, behind) =>
    let third := behind.drop 2
    atMark "!" behind && atGroup .brace (behind.drop 1) &&
      !(atOnly "." [".."] third || atMark "?" third)
  | none => false

/-- Whether a macro that defines something under a name begins here. -/
def atMacroItem (trees : List Tree) : Bool :=
  match wordPath.run trees with
  | some (_, behind) =>
    atMark "!" behind && (atIdentifier (behind.drop 1) || atKeyword "try" (behind.drop 1))
  | none => false

def atItem (trees : List Tree) : Bool :=
  let behind := trees.drop 1
  let third := trees.drop 2
  atOneOf ["pub", "extern", "use", "fn", "mod", "type", "struct", "enum", "trait", "impl",
      "macro"] trees ||
    (atKeyword "crate" trees && !atMark "::" behind) ||
    (atKeyword "static" trees && (atKeyword "mut" behind || (atIdentifier behind &&
      !(atKeyword "async" behind && (atKeyword "move" third || atMark "|" third))))) ||
    (atKeyword "const" trees && !(atGroup .brace behind || atOneOf ["static", "move"] behind ||
      atMark "|" behind ||
      (atKeyword "async" behind && !atOneOf ["unsafe", "extern", "fn"] third))) ||
    (atKeyword "unsafe" trees && !atGroup .brace behind) ||
    (atKeyword "async" trees && atOneOf ["unsafe", "extern", "fn"] behind) ||
    (atKeyword "union" trees && atIdentifier behind) ||
    (atKeyword "auto" trees && atKeyword "trait" behind) ||
    (atKeyword "default" trees && atOneOf ["unsafe", "impl"] behind) ||
    atMacroItem trees

/-- A `let` statement. An `else` needs a value that no brace closes. -/
def letStatement (g : Rules) : Scan Unit := do
  keyword "let"
  let _ ← g.rule .pattern
  if ← mark? ":" then
    let _ ← g.type
  if ← mark? "=" then
    let value ← g.expression
    if !value.braceLast && (← ahead (atKeyword "else")) then
      skip 1
      block g
  mark ";"

/-- One statement. Answers whether a semicolon must follow before the next one. -/
def statement (g : Rules) : Scan Bool := do
  outerAttributes g
  let trees ← get
  if atMacroStatement trees then
    wordPath
    skip 2
    let _ ← mark? ";"
    return false
  else if atKeyword "let" trees then
    letStatement g
    return false
  else if atItem trees then
    g.rule .item
    return false
  else
    let form ← g.rule .statementExpression
    if ← mark? ";" then return false
    else
      return match form.shape with
        | .block => false
        | .macroCall braces => !braces
        | _ => true

/-- The statements of a block, to its end. Semicolons may stand alone. -/
def statementsRule (g : Rules) : Scan Unit :=
  loop () fun _ => do
    if ← mark? ";" then return ((), true)
    else if ← atEnd then return ((), false)
    else
      let unfinished ← statement g
      if ← atEnd then return ((), false)
      else if unfinished then failure
      else return ((), true)

end NativeThunks.Grammar
