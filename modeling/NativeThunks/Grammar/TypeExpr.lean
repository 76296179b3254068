import NativeThunks.Grammar.Path

/-! Types. -/
namespace NativeThunks.Grammar

def atText : List Tree → Bool
  | .literal .text :: _ => true
  | _ => false

/-- A calling convention, if one comes next: the word, and optionally its name as quoted text. -/
def convention : Scan Unit := do
  if ← keyword? "extern" then
    if ← ahead atText then skip 1

/-- A parameter of a function pointer behind its attributes: a type, with a name and a colon in
front or not. The first parameter may be `mut self`, with a type or without. -/
def functionParameter (g : Rules) (first : Bool) : Scan Unit := do
  let isMutSelf : List Tree → Bool := fun trees =>
    first && atKeyword "mut" trees && atKeyword "self" (trees.drop 1)
  let mutable ← ahead isMutSelf
  if mutable then skip 1
  let trees ← get
  let named := (atIdentifier trees || atKeyword "_" trees || (first && atKeyword "self" trees)) &&
    atOnly ":" ["::"] (trees.drop 1)
  let received := named && atKeyword "self" trees
  if named then skip 2
  if !received && isMutSelf (← get) then skip 2
  else if mutable && !named then keyword "self"
  else
    let _ ← g.type

/-- Three dots that end a parameter list, named or not. -/
def variadic : Scan Unit := do
  if ← ahead fun trees => atIdentifier trees || atKeyword "_" trees then
    anyWord
    mark ":"
  mark "..."
  let _ ← mark? ","

def functionParameters (g : Rules) : Scan Unit := do
  let _ ← loop true fun first => do
    if ← atEnd then return (first, false)
    outerAttributes g
    if ← ahead fun trees => atMark "..." trees ||
        ((atIdentifier trees || atKeyword "_" trees) && atMark ":" (trees.drop 1) &&
          atMark "..." (trees.drop 2)) then
      variadic
      return (first, false)
    functionParameter g first
    if ← atEnd then return (false, false)
    mark ","
    return (false, true)

/-- A function pointer behind its binder. -/
def functionPointer (g : Rules) : Scan Unit := do
  let _ ← keyword? "unsafe"
  convention
  keyword "fn"
  inside .paren (functionParameters g)
  result g false

/-- Whether bounds name at least one trait. -/
def hasTrait (found : List BoundForm) : Bool := found.any (· == .trait)

/-- The bounds of a trait object; one of them is a trait. -/
def objectBounds (g : Rules) (plus : Bool) : Scan (List BoundForm × Bool) := do
  let (found, trailing) ← bounds g plus false false
  if hasTrait found then return (found, trailing) else failure

/-- The bounds of an opaque type; one of them is a trait. -/
def opaqueBounds (g : Rules) (plus : Bool) : Scan Unit := do
  let (found, _) ← bounds g plus true true
  if hasTrait found || found.any (· == .constant) then return else failure

/-- Further bounds after a path: as long as a plus sign comes next. -/
def pathBounds (g : Rules) : Scan (Nat × Bool) :=
  loop (1, false) fun (count, trailing) => do
    if ← mark? "+" then
      if ← ahead (atBound false) then
        let _ ← g.rule (.bound false false)
        return ((count + 1, false), true)
      else return ((count, true), false)
    else return ((count, trailing), false)

/-- What parentheses at the front of a type hold: a tuple or an object type that nothing extends, a
relaxed bound that further bounds extend, or one type that may be the first of several bounds. -/
inductive ParenForm where
  | closed
  | relaxedBound
  | single (form : TypeForm)

/-- The content of parentheses that begin a type. -/
def parenContent (g : Rules) : Scan ParenForm := do
  let trees ← get
  if trees.isEmpty then return .closed
  else if atLifetime trees then
    let _ ← objectBounds g true
    return .closed
  else if atMark "?" trees then
    let _ ← trait g false
    return .relaxedBound
  else
    let form ← g.type
    if ← mark? "," then
      let _ ← commas g.type
      return .closed
    else return .single form

/-- A type that begins with a parenthesis. -/
def parenType (g : Rules) (plus : Bool) : Scan TypeForm := do
  match ← inside .paren (parenContent g) with
  | .closed => return .other
  | .relaxedBound =>
    let count ← moreBounds g
    return .bounds false (count + 1) false
  | .single form =>
    if plus && (← ahead (atMark "+")) then
      let isBound := match form with
        | .path _ => true
        | .bounds marked count trailing => !marked && count ≤ 1 && !trailing
        | _ => false
      if isBound then
        let count ← moreBounds g
        return .bounds false (count + 1) false
      else return .other
    else return .other

/-- A type that begins with a path: a macro call, a sum of bounds, or the path itself. -/
def pathType (g : Rules) (bound plus : Bool) : Scan TypeForm := do
  match ← qualifiedPath g false with
  | none => return .other
  | some form =>
    if form.plain && (← ahead (atOnly "!" ["!="])) then
      skip 1
      return .macroCall (← anyGroup)
    else if bound || (plus && (← ahead (atMark "+"))) then
      if plus then
        let (count, trailing) ← pathBounds g
        return .bounds false count trailing
      else return .bounds false 1 false
    else return .path form

/-- Words that may begin a type behind a `for` binder. -/
def boundTypeWords : List String :=
  ["fn", "unsafe", "extern", "super", "self", "Self", "crate"]

/-- A type. Where a plus sign is not welcome it ends the type. -/
def typeRule (g : Rules) (plus : Bool) : Scan TypeForm := do
  let bound ← binder g
  let trees ← get
  if bound && (!(atIdentifier trees || atOneOf boundTypeWords trees) || atKeyword "dyn" trees) then
    failure
  else if atGroup .paren trees then parenType g plus
  else if atOneOf ["fn", "unsafe", "extern"] trees then
    functionPointer g
    return .other
  else if atIdentifier trees || atOneOf ["super", "self", "Self", "crate"] trees ||
      atMark "::" trees || atMark "<" trees then
    pathType g bound plus
  else if atKeyword "dyn" trees then
    skip 1
    let starred ← mark? "*"
    let (found, trailing) ← objectBounds g plus
    return if starred then .other else .bounds true found.length trailing
  else if atGroup .bracket trees then
    inside .bracket do
      let _ ← g.type
      if ← mark? ";" then
        let _ ← g.expression
    return .other
  else if atMark "*" trees then
    skip 1
    if ← keyword? "const" then pure () else keyword "mut"
    let _ ← g.tightType
    return .other
  else if atMark "&" trees then
    skip 1
    if ← ahead atLifetime then skip 1
    let _ ← keyword? "mut"
    let _ ← g.tightType
    return .other
  else if atMark "!" trees then
    skip 1
    return .other
  else if atKeyword "impl" trees then
    skip 1
    opaqueBounds g plus
    return .other
  else if atKeyword "_" trees then
    skip 1
    return .other
  else if atLifetime trees then
    let (found, trailing) ← objectBounds g true
    return .bounds false found.length trailing
  else failure

end NativeThunks.Grammar
