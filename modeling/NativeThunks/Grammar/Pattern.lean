import NativeThunks.Grammar.Path

/-! Patterns. -/
namespace NativeThunks.Grammar

/-- The value of an unsuffixed whole number, in the base that its mark names. -/
def wholeValue? (spelling : List Char) : Option Nat :=
  let value (base : Nat) (digits : List Char) : Option Nat :=
    digits.foldlM (fun total c =>
      if c == '_' then some total
      else (hexValue? c).bind fun digit =>
        if digit < base then some (total * base + digit) else none) 0
  match spelling with
  | '0' :: 'x' :: digits => value 16 digits
  | '0' :: 'o' :: digits => value 8 digits
  | '0' :: 'b' :: digits => value 2 digits
  | digits => value 10 digits

/-- Whether a number names the position of a tuple field. -/
def isPosition (spelling : List Char) : Bool :=
  match wholeValue? spelling with
  | some value => value < 4294967296
  | none => false

/-- A field by its name or its position. Answers whether it is a name. -/
def member : Scan Bool := do
  match ← get with
  | .literal (.integer spelling) :: _ =>
    if isPosition spelling.toList then skip 1; return false else failure
  | _ => identifier; return true

/-- Alternatives between vertical bars, with an optional bar in front. -/
def alternatives (g : Rules) : Scan PatternForm := do
  let leading ← mark? "|"
  let first ← g.rule .pattern
  let several ← loop leading fun several => do
    if ← ahead (atOnly "|" ["||", "|="]) then
      skip 1
      let _ ← g.rule .pattern
      return (true, true)
    else return (several, false)
  return if several then .other else first

/-- The dots of a range pattern; three of them also close it. Answers whether the range includes its
end. -/
def patternDots : Scan Bool := do
  if ← mark? "..=" then return true
  else if ← mark? "..." then return true
  else mark ".."; return false

/-- One end of a range pattern, if there is one. -/
def rangeEnd? (g : Rules) : Scan Bool := do
  let trees ← get
  if trees.isEmpty || atMark "|" trees || atMark "=" trees || atOnly ":" ["::"] trees ||
      atMark "," trees || atMark ";" trees || atKeyword "if" trees then return false
  else if atLiteral trees then literal; return true
  else if atIdentifier trees || atMark "::" trees || atMark "<" trees ||
      atOneOf ["self", "Self", "super", "crate"] trees then
    let _ ← qualifiedPath g true
    return true
  else
    keyword "const"
    attributedBlock g
    return true

def rangeRest (g : Rules) : Scan PatternForm := do
  let closed ← patternDots
  if ← rangeEnd? g then return .other
  else if closed then failure
  else return .openRange

/-- One field of a struct pattern behind its attributes. -/
def fieldPattern (g : Rules) : Scan Unit := do
  let boxed ← keyword? "box"
  let byRef ← keyword? "ref"
  let mutable ← keyword? "mut"
  if boxed || byRef || mutable then identifier
  else
    let named ← member
    if !named || (← ahead (atMark ":")) then
      mark ":"
      let _ ← alternatives g

/-- The fields of a struct pattern; two dots end them. -/
def fieldPatterns (g : Rules) : Scan Unit :=
  loop () fun _ => do
    if ← atEnd then return ((), false)
    outerAttributes g
    if ← mark? ".." then return ((), false)
    fieldPattern g
    if ← atEnd then return ((), false)
    mark ","
    return ((), true)

def pathPattern (g : Rules) : Scan PatternForm := do
  let form ← qualifiedPath g true
  let plain := match form with
    | some form => form.plain
    | none => false
  let trees ← get
  if plain && atOnly "!" ["!="] trees then
    skip 1
    let _ ← anyGroup
    return .other
  else if atGroup .brace trees then
    inside .brace (fieldPatterns g)
    return .other
  else if atGroup .paren trees then
    let _ ← inside .paren (commas (alternatives g))
    return .other
  else if atMark ".." trees then rangeRest g
  else return .other

/-- A name that the pattern binds, with an optional pattern behind it. -/
def bindingPattern (g : Rules) : Scan Unit := do
  let _ ← keyword? "ref"
  let _ ← keyword? "mut"
  if ← ahead (atKeyword "self") then skip 1 else identifier
  if ← mark? "@" then
    let _ ← g.rule .pattern

/-- Whether a path, and not a bare name, begins here. -/
def atPathPattern (trees : List Tree) : Bool :=
  let behind := trees.drop 1
  (atIdentifier trees && (atMark "::" behind || atMark "!" behind || atGroup .brace behind ||
      atGroup .paren behind || atMark ".." behind)) ||
    (atKeyword "self" trees && atMark "::" behind) || atMark "::" trees || atMark "<" trees ||
    atOneOf ["Self", "super", "crate"] trees

/-- One pattern without alternatives. A range without an end needs parentheses in a slice. -/
def patternRule (g : Rules) : Scan PatternForm := do
  let trees ← get
  if atPathPattern trees then pathPattern g
  else if atKeyword "_" trees then skip 1; return .other
  else if atKeyword "box" trees then
    skip 1
    let _ ← g.rule .pattern
    return .other
  else if atMark "-" trees || atLiteral trees || atKeyword "const" trees then
    if ← rangeEnd? g then
      if ← ahead (atMark "..") then rangeRest g else return .other
    else failure
  else if atOneOf ["ref", "mut", "self"] trees || atIdentifier trees then
    bindingPattern g
    return .other
  else if atMark "&" trees then
    skip 1
    let _ ← keyword? "mut"
    let _ ← g.rule .pattern
    return .other
  else if atGroup .paren trees then
    let _ ← inside .paren (commas (alternatives g))
    return .other
  else if atGroup .bracket trees then
    let found ← inside .bracket (commas (alternatives g))
    if found.any (· == .openRange) then failure else return .other
  else if atOnly ".." ["..."] trees then
    let closed ← mark? "..="
    if !closed then skip 2
    if ← rangeEnd? g then return .openRange
    else if closed then failure
    else return .rest
  else failure

end NativeThunks.Grammar
