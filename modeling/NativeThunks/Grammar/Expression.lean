import NativeThunks.Grammar.Pattern
import NativeThunks.Grammar.TypeExpr

/-! Expressions. A struct literal is read only where a brace is welcome, so that the condition of a
control structure ends before its block. -/
namespace NativeThunks.Grammar

/-- An expression that nothing around it asks about. -/
def ExprForm.plain : ExprForm := ⟨.other, false⟩

/-- The binary operators with what they bind, longer spellings first. -/
def operators : List (String × Precedence) := [
  ("+=", .assign), ("-=", .assign), ("*=", .assign), ("/=", .assign), ("%=", .assign),
  ("^=", .assign), ("&=", .assign), ("|=", .assign), ("<<=", .assign), (">>=", .assign),
  ("&&", .conjunction), ("||", .disjunction), ("<<", .shift), (">>", .shift), ("==", .compare),
  ("<=", .compare), ("!=", .compare), (">=", .compare), ("+", .sum), ("-", .sum), ("*", .product),
  ("/", .product), ("%", .product), ("^", .bitXor), ("&", .bitAnd), ("|", .bitOr), ("<", .compare),
  (">", .compare)]

/-- The binary operator at the front of the trees. -/
def operator? (trees : List Tree) : Option (String × Precedence) :=
  operators.find? fun (spelling, _) => atMark spelling trees

def atAssign (trees : List Tree) : Bool := atOnly "=" ["=>"] trees

/-- The precedence of what follows an operand. -/
def nextPrecedence (trees : List Tree) : Precedence :=
  match operator? trees with
  | some (_, precedence) => precedence
  | none =>
    if atAssign trees then .assign
    else if atMark ".." trees then .range
    else if atKeyword "as" trees then .cast
    else .jump

/-- The right operand of an operator: it extends over whatever binds tighter, and an assignment
also over further assignments. -/
def rightOperand (g : Rules) (structs : Bool) (precedence : Precedence) : Scan ExprForm := do
  let first ← g.rule (.unary structs)
  loop first fun right => do
    let trees ← get
    let next := nextPrecedence trees
    if precedence.rank < next.rank ∨ (next = precedence ∧ precedence = .assign) then
      let right ← g.rule (.continuation right structs next)
      return (right, (← get).length != trees.length)
    else return (right, false)

/-- Whether nothing can follow the two dots of a range without an end. -/
def atRangeStop (structs : Bool) (trees : List Tree) : Bool :=
  trees.isEmpty || atOnly "." [".."] trees || (!structs && atGroup .brace trees) ||
    atKeyword "as" trees ||
    [",", ";", "?", "=>", "=", "+", "/", "%", "^", ">", "<=", "!=", "-=", "*=", "&=", "|=",
      "<<="].any (atMark · trees)

/-- The dots of a range and its end. -/
def rangeTail (g : Rules) (structs : Bool) : Scan ExprForm := do
  let closed ← mark? "..="
  if !closed then
    if ← ahead (atOnly ".." ["..."]) then skip 2 else failure
  if !closed && (← ahead (atRangeStop structs)) then return ⟨.range, false⟩
  else
    let last ← rightOperand g structs .range
    return ⟨.range, last.braceLast⟩

/-- Whether a postfix stands here, which a cast does not allow behind its type. -/
def atPostfix (trees : List Tree) : Bool :=
  atOnly "." [".."] trees || atMark "?" trees || atGroup .bracket trees || atGroup .paren trees

/-- What follows a left operand, down to a precedence. Comparisons do not chain, and a range is no
left operand. -/
def continuationRule (g : Rules) (left : ExprForm) (structs : Bool) (base : Precedence) :
    Scan ExprForm :=
  loop left fun left => do
    let trees ← get
    if left.shape = .range then return (left, false)
    else
      match operator? trees with
      | some (spelling, precedence) =>
        if precedence.rank < base.rank then return (left, false)
        else if precedence = .compare ∧ left.shape = .comparison then failure
        else
          skip spelling.length
          let right ← rightOperand g structs precedence
          let shape := if precedence = .compare then .comparison else .other
          return (⟨shape, right.braceLast⟩, true)
      | none =>
        if base.rank ≤ Precedence.assign.rank ∧ atAssign trees then
          skip 1
          let right ← rightOperand g structs .assign
          return (⟨.other, right.braceLast⟩, true)
        else if base.rank ≤ Precedence.range.rank ∧ atMark ".." trees then
          return (← rangeTail g structs, true)
        else if base.rank ≤ Precedence.cast.rank ∧ atKeyword "as" trees then
          skip 1
          let form ← g.tightType
          if ← ahead atPostfix then failure
          else
            let braces := match form with
              | .macroCall braces => braces
              | _ => false
            return (⟨.other, braces⟩, true)
        else return (left, false)

/-- Arguments in parentheses. -/
def callArguments (g : Rules) : Scan Unit := do
  let _ ← inside .paren (commas g.expression)

def splitAt (separator : Char) : List Char → List (List Char)
  | [] => [[]]
  | c :: rest =>
    if c == separator then [] :: splitAt separator rest
    else
      match splitAt separator rest with
      | part :: parts => (c :: part) :: parts
      | [] => [[c]]

/-- A fraction behind a dot stands for positions. Answers whether it ends with a dot, so that a
further member follows. -/
def positions (spelling : String) : Scan Bool := do
  skip 1
  let parts := splitAt '.' spelling.toList
  let trailing := parts.getLast? = some []
  let parts := if trailing then parts.dropLast else parts
  if parts.all isPosition then return trailing else failure

/-- What stands behind a dot: positions, `await`, a field or a method call. -/
def dotted (g : Rules) : Scan Unit := do
  let more ← match ← get with
    | .literal (.fraction spelling) :: _ => positions spelling
    | _ => pure true
  if more then
    if ← keyword? "await" then return
    let named ← member
    if named && (← ahead (atMark "::")) then
      mark "::"
      let _ ← angleArguments g
      callArguments g
    else if named && (← ahead (atGroup .paren)) then callArguments g

/-- The postfixes behind an operand. A range takes calls and indices only. -/
def postfixes (g : Rules) (start : ExprForm) : Scan ExprForm :=
  loop start fun form => do
    let trees ← get
    if atGroup .paren trees then
      callArguments g
      return (.plain, true)
    else if atOnly "." [".."] trees && form.shape != .range then
      skip 1
      dotted g
      return (.plain, true)
    else if atGroup .bracket trees then
      inside .bracket do
        let _ ← g.expression
      return (.plain, true)
    else if atMark "?" trees && form.shape != .range then
      skip 1
      return (.plain, true)
    else return (form, false)

def atExpression (trees : List Tree) : Bool :=
  (atWord trees && !atKeyword "as" trees) || atGroup .paren trees || atGroup .bracket trees ||
    atGroup .brace trees || atLiteral trees || atOnly "!" ["!="] trees ||
    atOnly "-" ["-=", "->"] trees || atOnly "*" ["*="] trees || atOnly "|" ["|="] trees ||
    atOnly "&" ["&="] trees || atMark ".." trees || atOnly "<" ["<=", "<<="] trees ||
    atMark "::" trees || atLifetime trees || atMark "#" trees

/-- The fields of a struct literal; two dots begin the value of the others. -/
def fieldValues (g : Rules) : Scan Unit :=
  loop () fun _ => do
    if ← atEnd then return ((), false)
    if ← mark? ".." then
      if !(← atEnd) then
        let _ ← g.expression
      return ((), false)
    outerAttributes g
    let named ← member
    if !named || (← ahead (atMark ":")) then
      mark ":"
      let _ ← g.expression
    if ← atEnd then return ((), false)
    mark ","
    return ((), true)

/-- An expression that begins with a path: a macro call, a struct literal or the path. -/
def pathExpression (g : Rules) (structs : Bool) : Scan ExprForm := do
  let form ← qualifiedPath g true
  let plain := match form with
    | some form => form.plain
    | none => false
  if plain && (← ahead (atOnly "!" ["!="])) then
    skip 1
    let braces ← anyGroup
    return ⟨.macroCall braces, braces⟩
  else if structs && (← ahead (atGroup .brace)) then
    inside .brace (fieldValues g)
    return ⟨.other, true⟩
  else return .plain

def closureParameter (g : Rules) : Scan Unit := do
  outerAttributes g
  let _ ← g.rule .pattern
  if ← mark? ":" then
    let _ ← g.type

/-- A closure. With a result type its body is a block. -/
def closure (g : Rules) (structs : Bool) : Scan ExprForm := do
  let _ ← binder g
  let _ ← keyword? "const"
  let _ ← keyword? "static"
  let _ ← keyword? "async"
  let _ ← keyword? "move"
  mark "|"
  let _ ← separated (atMark "|") "," (closureParameter g)
  mark "|"
  if ← mark? "->" then
    let _ ← g.type
    block g
    return ⟨.other, true⟩
  else
    let body ← g.rule (.expression structs)
    return ⟨.other, body.braceLast⟩

/-- A condition, which a brace ends. -/
def condition (g : Rules) : Scan Unit := do
  let _ ← g.rule (.expression false)

/-- An `if` with its further branches. -/
def ifElse (g : Rules) : Scan Unit :=
  loop () fun _ => do
    keyword "if"
    condition g
    block g
    if ← keyword? "else" then
      if ← ahead (atKeyword "if") then return ((), true)
      else
        block g
        return ((), false)
    else return ((), false)

/-- One arm of a `match`. A body that is no block needs a comma, except at the end. -/
def matchArm (g : Rules) : Scan Unit := do
  outerAttributes g
  let _ ← alternatives g
  if ← keyword? "if" then
    let _ ← g.expression
  mark "=>"
  let body ← g.rule .statementExpression
  if body.shape != .block && !(← atEnd) then mark ","
  else
    let _ ← mark? ","

def matchArms (g : Rules) : Scan Unit :=
  loop () fun _ => do
    if ← atEnd then return ((), false)
    matchArm g
    return ((), true)

def label? : Scan Unit := do
  if ← ahead atLifetime then
    skip 1
    mark ":"

/-- A `while`, `for` or `loop` behind its label. -/
def loopExpression (g : Rules) : Scan Unit := do
  if ← keyword? "while" then condition g
  else if ← keyword? "for" then
    let _ ← alternatives g
    keyword "in"
    condition g
  else keyword "loop"
  attributedBlock g

/-- What a label stands in front of. -/
def labeled (g : Rules) : Scan ExprForm := do
  label?
  if ← ahead (atOneOf ["while", "for", "loop"]) then loopExpression g
  else attributedBlock g
  return ⟨.block, true⟩

def matchExpression (g : Rules) : Scan Unit := do
  keyword "match"
  condition g
  inside .brace do
    innerAttributes g
    matchArms g

/-- The value behind a word that leaves a block or a function. -/
def leavingValue (g : Rules) (structs : Bool) : Scan ExprForm := do
  let value ← g.rule (.expression structs)
  return ⟨.other, value.braceLast⟩

/-- A `break`, with a label and a value or without. -/
def breakExpression (g : Rules) (structs : Bool) : Scan ExprForm := do
  keyword "break"
  if ← ahead atLifetime then
    skip 1
    if ← ahead (atMark ":") then failure
  if ← ahead fun trees => atExpression trees && (structs || !atGroup .brace trees) then
    leavingValue g structs
  else return .plain

/-- Parentheses around expressions, or brackets with a repetition or a list. -/
def listed (g : Rules) (repetition : Bool) : Scan Unit := do
  if ← atEnd then return
  let _ ← g.expression
  if ← atEnd then return
  if repetition && (← ahead (atMark ";")) then
    skip 1
    let _ ← g.expression
  else
    mark ","
    let _ ← commas g.expression

def letCondition (g : Rules) (structs : Bool) : Scan ExprForm := do
  keyword "let"
  let _ ← alternatives g
  mark "="
  let left ← g.rule (.unary structs)
  let value ← g.rule (.continuation left structs .compare)
  return ⟨.other, value.braceLast⟩

def atClosure (trees : List Tree) : Bool :=
  let behind := trees.drop 1
  atMark "|" trees || atKeyword "move" trees || atKeyword "static" trees ||
    (atKeyword "for" trees && atMark "<" behind &&
      (atLifetime (trees.drop 2) || atMark ">" (trees.drop 2))) ||
    (atKeyword "const" trees && !atGroup .brace behind) ||
    (atKeyword "async" trees && (atMark "|" behind || atKeyword "move" behind))

def atAsyncBlock (trees : List Tree) : Bool :=
  let behind := trees.drop 1
  atKeyword "async" trees &&
    (atGroup .brace behind || (atKeyword "move" behind && atGroup .brace (trees.drop 2)))

def atPathExpression (trees : List Tree) : Bool :=
  let behind := trees.drop 1
  atIdentifier trees || atMark "::" trees || atMark "<" trees ||
    atOneOf ["self", "Self", "super", "crate"] trees ||
    (atKeyword "try" trees && (atMark "!" behind || atMark "::" behind))

/-- An operand without its prefix operators and postfixes. -/
def atom (g : Rules) (structs : Bool) : Scan ExprForm := do
  let trees ← get
  let behind := trees.drop 1
  if atLiteral trees then literal; return .plain
  else if atAsyncBlock trees then
    skip 1
    let _ ← keyword? "move"
    block g
    return ⟨.other, true⟩
  else if atKeyword "try" trees && atGroup .brace behind then
    skip 1
    block g
    return ⟨.block, true⟩
  else if atClosure trees then closure g structs
  else if atKeyword "builtin" trees && atMark "#" behind then
    skip 2
    identifier
    takeIf (atGroup .paren)
    return .plain
  else if atPathExpression trees then pathExpression g structs
  else if atGroup .paren trees then
    inside .paren (listed g false)
    return .plain
  else if atKeyword "break" trees then breakExpression g structs
  else if atKeyword "continue" trees then
    skip 1
    if ← ahead atLifetime then skip 1
    return .plain
  else if atOneOf ["return", "yield"] trees then
    skip 1
    if ← ahead atExpression then leavingValue g true else return .plain
  else if atKeyword "become" trees then
    skip 1
    leavingValue g true
  else if atGroup .bracket trees then
    inside .bracket (listed g true)
    return .plain
  else if atKeyword "let" trees then letCondition g structs
  else if atKeyword "if" trees then
    ifElse g
    return ⟨.block, true⟩
  else if atOneOf ["while", "for", "loop"] trees then
    loopExpression g
    return ⟨.block, true⟩
  else if atKeyword "match" trees then
    matchExpression g
    return ⟨.block, true⟩
  else if atOneOf ["unsafe", "const"] trees then
    skip 1
    attributedBlock g
    return ⟨.block, true⟩
  else if atGroup .brace trees then
    attributedBlock g
    return ⟨.block, true⟩
  else if atMark ".." trees then rangeTail g structs
  else if atKeyword "_" trees then skip 1; return .plain
  else if atLifetime trees then labeled g
  else failure

/-- An operand with its prefix operators. Attributes do not stand in front of a range. -/
def unaryRule (g : Rules) (structs : Bool) : Scan ExprForm := do
  let attributed ← ahead (atMark "#")
  outerAttributes g
  let trees ← get
  if atMark "&" trees then
    skip 1
    let raw ← ahead fun trees =>
      atKeyword "raw" trees && atOneOf ["mut", "const"] (trees.drop 1)
    if raw then skip 2
    else
      let _ ← keyword? "mut"
    let operand ← g.rule (.unary structs)
    return ⟨.other, operand.braceLast⟩
  else if atMark "*" trees || atMark "!" trees || atMark "-" trees then
    skip 1
    let operand ← g.rule (.unary structs)
    return ⟨.other, operand.braceLast⟩
  else
    let form ← postfixes g (← atom g structs)
    if attributed && form.shape == .range then failure else return form

def expressionRule (g : Rules) (structs : Bool) : Scan ExprForm := do
  let left ← g.rule (.unary structs)
  g.rule (.continuation left structs .jump)

/-- An expression where a statement stands. A block or control structure in front ends it, unless a
postfix follows. -/
def statementExpressionRule (g : Rules) : Scan ExprForm := do
  outerAttributes g
  let trees ← get
  let behind := trees.drop 1
  let isLoop := atOneOf ["while", "loop"] trees || (atKeyword "for" trees &&
    !(atMark "<" behind && (atLifetime (trees.drop 2) || atMark ">" (trees.drop 2))))
  let blockLike := atKeyword "if" trees || isLoop || atKeyword "match" trees ||
    (atKeyword "try" trees && atGroup .brace behind) || atKeyword "unsafe" trees ||
    (atKeyword "const" trees && atGroup .brace behind) || atGroup .brace trees ||
    atLifetime trees
  if blockLike then
    let form ← atom g true
    if ← ahead fun trees => atOnly "." [".."] trees || atMark "?" trees then
      let form ← postfixes g form
      g.rule (.continuation form true .jump)
    else return form
  else
    let left ← g.rule (.unary true)
    g.rule (.continuation left true .jump)

end NativeThunks.Grammar
