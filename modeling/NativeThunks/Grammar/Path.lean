import NativeThunks.Grammar.Rule

/-! Attributes, generic parameters, bounds, and paths with their generic arguments. -/
namespace NativeThunks.Grammar

/-- Words that stand for a whole path segment. -/
def segmentWords : List String := ["super", "self", "crate", "try"]

/-- A path of words alone, as attributes and macros use. -/
def wordPath : Scan Unit := do
  let _ ← mark? "::"
  loop () fun _ => do
    if ← ahead fun trees =>
        atIdentifier trees || atOneOf ["super", "self", "Self", "crate"] trees then
      anyWord
      if ← mark? "::" then return ((), true) else return ((), false)
    else failure

/-- The value behind the equals sign of an attribute: a literal to the end, or an expression. -/
def attributeValue (g : Rules) : Scan Unit := do
  mark "="
  let trees ← get
  let width := literalWidth trees
  if 0 < width ∧ trees.length = width then skip width
  else if atMark "#" trees && atGroup .bracket (trees.drop 1) then failure
  else do
    let _ ← g.expression

/-- What stands in the brackets of an attribute. -/
def attributeBody (g : Rules) : Scan Unit := do
  if ← ahead (atKeyword "unsafe") then skip 1 else wordPath
  if ← ahead fun trees =>
      atGroup .paren trees || atGroup .bracket trees || atGroup .brace trees then
    let _ ← anyGroup
  else if ← ahead (atOnly "=" ["==", "=>"]) then attributeValue g

/-- The attributes in front of something. -/
def outerAttributes (g : Rules) : Scan Unit :=
  loop () fun _ => do
    if ← ahead (atMark "#") then
      skip 1
      inside .bracket (attributeBody g)
      return ((), true)
    else return ((), false)

/-- The attributes at the start of a block that speak about the block. -/
def innerAttributes (g : Rules) : Scan Unit :=
  loop () fun _ => do
    if ← ahead fun trees => atMark "#" trees && atMark "!" (trees.drop 1) then
      skip 2
      inside .bracket (attributeBody g)
      return ((), true)
    else return ((), false)

/-- Statements in braces, with attributes for the block in front. -/
def attributedBlock (g : Rules) : Scan Unit :=
  inside .brace do
    innerAttributes g
    g.rule .statements

/-- Statements in braces. -/
def block (g : Rules) : Scan Unit := inside .brace (g.rule .statements)

/-- A literal or a block, where a constant is an argument. -/
def constantArgument (g : Rules) : Scan Unit := do
  if ← ahead atLiteral then literal
  else if ← ahead atIdentifier then identifier
  else attributedBlock g

/-- The result type of a function, if it has one. -/
def result (g : Rules) (plus : Bool) : Scan Unit := do
  if ← mark? "->" then
    let _ ← g.rule (.type plus)

/-- One generic argument. A single name may be followed by an equals sign or a colon, which make
the argument a binding or a constraint. -/
def genericArgument (g : Rules) : Scan Unit := do
  let trees ← get
  if atLifetime trees && !atMark "+" (trees.drop 1) then skip 1
  else if atLiteral trees || atGroup .brace trees then constantArgument g
  else
    match ← g.type with
    | .path form =>
      if !form.rooted ∧ form.segments = 1 then
        if ← mark? "=" then
          if ← ahead fun trees => atLiteral trees || atGroup .brace trees then constantArgument g
          else
            let _ ← g.type
        else if ← mark? ":" then
          loop () fun _ => do
            if ← ahead fun trees => atMark "," trees || atMark ">" trees then return ((), false)
            g.parameterBound
            if ← mark? "+" then return ((), true) else return ((), false)
    | _ => return

/-- Generic arguments in angle brackets. Answers whether there are none. -/
def angleArguments (g : Rules) : Scan Bool := do
  mark "<"
  let found ← separated (atMark ">") "," (genericArgument g)
  mark ">"
  return found.isEmpty

/-- One path segment. In an expression its arguments need a double colon in front. Answers whether
it has arguments, and whether it has none or an empty list. -/
def segment (g : Rules) (expression : Bool) : Scan (Bool × Bool) := do
  if ← ahead (atOneOf segmentWords) then skip 1; return (false, true)
  else
    if ← ahead (atKeyword "Self") then skip 1 else identifier
    let trees ← get
    if (!expression && atOnly "<" ["<=", "<<="] trees) ||
        (atMark "::" trees && atMark "<" (trees.drop 2)) then
      let _ ← mark? "::"
      let isEmpty ← angleArguments g
      return (true, isEmpty)
    else return (false, true)

/-- A path; a double colon before a parenthesis is left to the rule around it. -/
def path (g : Rules) (expression : Bool) : Scan PathForm := do
  let rooted ← mark? "::"
  let (arguments, isEmpty) ← segment g expression
  loop ⟨rooted, 1, !arguments, isEmpty⟩ fun form => do
    if ← ahead fun trees => atMark "::" trees && !atGroup .paren (trees.drop 2) then
      mark "::"
      let (arguments, isEmpty) ← segment g expression
      return (⟨rooted, form.segments + 1, form.plain && !arguments, isEmpty⟩, true)
    else return (form, false)

/-- A generic parameter of a `for` binder or an item. -/
def genericParameter (g : Rules) : Scan Unit := do
  outerAttributes g
  if ← ahead atIdentifier then
    skip 1
    if ← mark? ":" then
      loop () fun _ => do
        if ← ahead fun trees => trees.isEmpty || atMark "," trees || atMark ">" trees ||
            atMark "=" trees then return ((), false)
        g.parameterBound
        if ← mark? "+" then return ((), true) else return ((), false)
    if ← mark? "=" then
      let _ ← g.type
  else if ← ahead atLifetime then
    skip 1
    if ← mark? ":" then
      loop () fun _ => do
        if ← ahead fun trees => trees.isEmpty || atMark "," trees || atMark ">" trees then
          return ((), false)
        lifetime
        if ← mark? "+" then return ((), true) else return ((), false)
  else
    keyword "const"
    identifier
    mark ":"
    let _ ← g.type
    if ← mark? "=" then constantArgument g

/-- A `for` binder, if one comes next. Answers whether it did. -/
def binder (g : Rules) : Scan Bool := do
  if ← keyword? "for" then
    mark "<"
    let _ ← separated (atMark ">") "," (genericParameter g)
    mark ">"
    return true
  else return false

/-- The names that an opaque type captures. -/
def captures : Scan Unit := do
  keyword "use"
  mark "<"
  let _ ← separated (atMark ">") "," <| takeIf fun trees =>
    atLifetime trees || atIdentifier trees || atKeyword "Self" trees
  mark ">"

/-- A trait with its modifiers. A binder and a question mark exclude each other, and the arguments
of a function trait stand in parentheses. Answers whether the bound is one on constants. -/
def trait (g : Rules) (constants : Bool) : Scan Bool := do
  let early ← binder g
  let constant ←
    if ← ahead (atGroup .bracket) then do
      inside .bracket (keyword "const")
      if constants then pure true else failure
    else if ← keyword? "const" then
      if constants then pure true else failure
    else pure false
  let relaxed ← mark? "?"
  let late ← if relaxed && !early then binder g else pure false
  let form ← path g false
  let trees ← get
  if form.lastOpen && (atGroup .paren trees ||
      (atMark "::" trees && atGroup .paren (trees.drop 2))) then
    let _ ← mark? "::"
    let _ ← inside .paren (commas g.type)
    result g false
  if (early || late) && relaxed then failure else return constant

/-- One bound: a lifetime, captured names, or a trait, which may stand in parentheses. -/
def bound (g : Rules) (captured constants : Bool) : Scan BoundForm := do
  let trees ← get
  if atLifetime trees then skip 1; return .lifetime
  else if atKeyword "use" trees then
    captures
    if captured then return .capture else failure
  else
    let constant ←
      if atGroup .paren trees then inside .paren (trait g constants) else trait g constants
    return if constant then .constant else .trait

def atBound (constants : Bool) (trees : List Tree) : Bool :=
  atWord trees || atMark "::" trees || atMark "?" trees || atLifetime trees ||
    atGroup .paren trees || (constants && (atGroup .bracket trees || atKeyword "const" trees))

/-- Bounds joined by plus signs, only one where a plus sign is not welcome. Answers the bounds and
whether a plus sign ends them. -/
def bounds (g : Rules) (plus captured constants : Bool) : Scan (List BoundForm × Bool) :=
  loop ([], false) fun (found, _) => do
    let next ← g.rule (.bound captured constants)
    let found := found ++ [next]
    if plus && (← ahead (atMark "+")) then
      skip 1
      if ← ahead (atBound constants) then return ((found, true), true)
      else return ((found, true), false)
    else return ((found, false), false)

/-- Further bounds after a first one that the caller has read: each begins with a plus sign. -/
def moreBounds (g : Rules) : Scan Nat :=
  loop 0 fun count => do
    if ← mark? "+" then
      let _ ← g.rule (.bound false false)
      return (count + 1, true)
    else return (count, false)

/-- A path that may start from a type in angle brackets. Answers nothing for such a path. -/
def qualifiedPath (g : Rules) (expression : Bool) : Scan (Option PathForm) := do
  if ← mark? "<" then
    let _ ← g.type
    if ← keyword? "as" then
      let _ ← path g false
    mark ">"
    mark "::"
    loop () fun _ => do
      let _ ← segment g expression
      if ← mark? "::" then return ((), true) else return ((), false)
    return none
  else return some (← path g expression)

end NativeThunks.Grammar
