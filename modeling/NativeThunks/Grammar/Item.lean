import NativeThunks.Grammar.Statement

/-! Items: what a block may declare besides its values. -/
namespace NativeThunks.Grammar

/-- A visibility, if one comes next. A group behind `pub` belongs to it when it holds a single path
word or begins with `in`. -/
def visibility? : Scan Unit := do
  if ← keyword? "pub" then
    match ← get with
    | .group .paren inner :: _ =>
      match inner with
      | [.word name] => if name ∈ ["crate", "self", "super"] then skip 1
      | .word "in" :: _ => inside .paren (skip 1 *> wordPath)
      | _ => return
    | _ => return

/-- Generic parameters in angle brackets, if they come next. -/
def generics? (g : Rules) : Scan Unit := do
  if ← mark? "<" then
    let _ ← separated (atMark ">") "," (genericParameter g)
    mark ">"

/-- Bounds up to a tree that ends them. -/
def boundsUntil (g : Rules) (stop : List Tree → Bool) : Scan Unit :=
  loop () fun _ => do
    if ← ahead stop then return ((), false)
    g.parameterBound
    if ← mark? "+" then return ((), true) else return ((), false)

/-- What ends the predicates of a `where` clause. -/
def atWhereEnd (trees : List Tree) : Bool :=
  trees.isEmpty || atGroup .brace trees || atMark "," trees || atMark ";" trees ||
    (atOnly ":" ["::"] trees) || atMark "=" trees

def wherePredicate (g : Rules) : Scan Unit := do
  if ← ahead fun trees => atLifetime trees && atMark ":" (trees.drop 1) then
    skip 2
    loop () fun _ => do
      if ← ahead atWhereEnd then return ((), false)
      lifetime
      if ← mark? "+" then return ((), true) else return ((), false)
  else
    let _ ← binder g
    let _ ← g.type
    mark ":"
    boundsUntil g atWhereEnd

def where? (g : Rules) : Scan Unit := do
  if ← keyword? "where" then
    let _ ← separated atWhereEnd "," (wherePredicate g)

/-- A type with a colon or an equals sign in front. -/
def typed (g : Rules) (separator : String) : Scan Unit := do
  mark separator
  let _ ← g.type

/-- A receiver of a method, if one comes next: `self` with its modifiers and an optional type. -/
def receiver? (g : Rules) : Scan Bool := do
  let behindReference : List Tree → List Tree := fun trees =>
    if atMark "&" trees then
      let trees := trees.drop 1
      if atLifetime trees then trees.drop 1 else trees
    else trees
  let trees ← get
  let rest := behindReference trees
  let rest := if atKeyword "mut" rest then rest.drop 1 else rest
  if atKeyword "self" rest && !atMark "::" (rest.drop 1) then
    set (rest.drop 1)
    if ← mark? ":" then
      let _ ← g.type
    return true
  else return false

/-- One parameter of a function: a receiver, three dots, or a pattern with its type. Answers whether
it is the three dots, which end the list. -/
def parameter (g : Rules) : Scan Bool := do
  outerAttributes g
  if ← mark? "..." then return true
  else if ← receiver? g then return false
  else
    let _ ← g.rule .pattern
    mark ":"
    if ← mark? "..." then return true
    else
      let _ ← g.type
      return false

def parameters (g : Rules) : Scan Unit :=
  loop () fun _ => do
    if ← atEnd then return ((), false)
    let last ← parameter g
    if ← atEnd then return ((), false)
    mark ","
    return ((), !last)

def signature (g : Rules) : Scan Unit := do
  let _ ← keyword? "const"
  let _ ← keyword? "async"
  let _ ← keyword? "unsafe"
  convention
  keyword "fn"
  identifier
  generics? g
  inside .paren (parameters g)
  result g true
  where? g

/-- Whether a function's signature begins here, behind its visibility. -/
def atSignature (trees : List Tree) : Bool :=
  let modifiers := ["const", "async", "unsafe"]
  let strip (word : String) (trees : List Tree) : List Tree :=
    if atKeyword word trees then trees.drop 1 else trees
  let rest := modifiers.foldl (fun trees word => strip word trees) trees
  let rest :=
    if atKeyword "extern" rest then
      let rest := rest.drop 1
      if atText rest then rest.drop 1 else rest
    else rest
  atKeyword "fn" rest

/-- A function with its body, or without one where a semicolon ends it. -/
def function (g : Rules) : Scan Unit := do
  signature g
  if ← mark? ";" then return else attributedBlock g

/-- The fields of a struct or a variant in braces. -/
def namedFields (g : Rules) : Scan Unit := do
  let _ ← inside .brace <| commas do
    outerAttributes g
    visibility?
    if ← ahead (atKeyword "_") then skip 1 else identifier
    typed g ":"

/-- The fields of a struct or a variant in parentheses. -/
def positionalFields (g : Rules) : Scan Unit := do
  let _ ← inside .paren <| commas do
    outerAttributes g
    visibility?
    let _ ← g.type

/-- A struct behind its keyword. -/
def structItem (g : Rules) : Scan Unit := do
  identifier
  generics? g
  where? g
  let trees ← get
  if atGroup .brace trees then namedFields g
  else if atGroup .paren trees then
    positionalFields g
    where? g
    mark ";"
  else mark ";"

def variant (g : Rules) : Scan Unit := do
  outerAttributes g
  visibility?
  identifier
  let trees ← get
  if atGroup .brace trees then namedFields g
  else if atGroup .paren trees then positionalFields g
  if ← mark? "=" then
    let _ ← g.expression

/-- An enumeration behind its keyword. -/
def enumItem (g : Rules) : Scan Unit := do
  identifier
  generics? g
  where? g
  let _ ← inside .brace (commas (variant g))

/-- A tree of imported names. Fuel bounds the nesting of braces. -/
def importTree : Nat → Scan Unit
  | 0 => failure
  | fuel + 1 =>
    loop () fun _ => do
      let trees ← get
      if atGroup .brace trees then
        let _ ← inside .brace <| commas do
          let _ ← mark? "::"
          importTree fuel
        return ((), false)
      else if ← mark? "*" then return ((), false)
      else if atIdentifier trees || atOneOf ["self", "super", "crate", "try", "Self"] trees then
        skip 1
        if ← mark? "::" then return ((), true)
        else
          if ← keyword? "as" then
            if ← ahead (atKeyword "_") then skip 1 else identifier
          return ((), false)
      else failure

/-- An import behind its keyword. -/
def useItem : Scan Unit := do
  let _ ← mark? "::"
  importTree ((← get).length + 1)
  mark ";"

/-- A macro call as an item, with an optional name. Without braces a semicolon ends it. -/
def macroItem : Scan Unit := do
  wordPath
  mark "!"
  if ← ahead fun trees => atIdentifier trees || atKeyword "try" trees then skip 1
  let braces ← anyGroup
  if !braces then mark ";"

/-- A constant behind its keyword. -/
def constItem (g : Rules) : Scan Unit := do
  if ← ahead (atKeyword "_") then skip 1 else identifier
  generics? g
  typed g ":"
  if ← mark? "=" then
    let _ ← g.expression
  where? g
  mark ";"

/-- A static behind its keyword. -/
def staticItem (g : Rules) : Scan Unit := do
  let _ ← keyword? "mut"
  identifier
  let isTyped ← mark? ":"
  if isTyped then
    let _ ← g.type
  if ← mark? "=" then
    let _ ← g.expression
  else if !isTyped then failure
  mark ";"

/-- A type alias behind its keyword, with optional bounds. -/
def typeItem (g : Rules) : Scan Unit := do
  identifier
  generics? g
  if ← mark? ":" then
    boundsUntil g fun trees =>
      trees.isEmpty || atKeyword "where" trees || atMark "=" trees || atMark ";" trees
  where? g
  if ← mark? "=" then
    let _ ← g.type
  where? g
  mark ";"

/-- One member of a trait, an implementation or an external block. -/
def associatedItem (g : Rules) : Scan Unit := do
  outerAttributes g
  visibility?
  if ← ahead fun trees => atKeyword "default" trees && !atMark "!" (trees.drop 1) then skip 1
  let trees ← get
  if atSignature trees then function g
  else if atKeyword "const" trees then skip 1; constItem g
  else if atKeyword "static" trees then skip 1; staticItem g
  else if atKeyword "type" trees then skip 1; typeItem g
  else macroItem

/-- Members in braces, with attributes for the whole in front. -/
def associatedItems (g : Rules) : Scan Unit :=
  inside .brace do
    innerAttributes g
    loop () fun _ => do
      if ← atEnd then return ((), false)
      associatedItem g
      return ((), true)

/-- A trait behind its modifiers, or an alias of bounds. -/
def traitItem (g : Rules) : Scan Unit := do
  keyword "trait"
  identifier
  generics? g
  if ← mark? "=" then
    boundsUntil g fun trees => atKeyword "where" trees || atMark ";" trees
    where? g
    mark ";"
  else
    if ← mark? ":" then
      boundsUntil g fun trees => atKeyword "where" trees || atGroup .brace trees
    where? g
    associatedItems g

/-- Whether angle brackets behind `impl` hold parameters and do not begin a path. -/
def atImplGenerics (trees : List Tree) : Bool :=
  let behind := trees.drop 1
  let third := trees.drop 2
  atMark "<" trees && (atMark ">" behind || atMark "#" behind || atKeyword "const" behind ||
    ((atIdentifier behind || atLifetime behind) &&
      (atMark ":" third || atMark "," third || atMark ">" third || atMark "=" third)))

/-- An implementation behind its modifiers. -/
def implItem (g : Rules) : Scan Unit := do
  keyword "impl"
  if ← ahead atImplGenerics then generics? g
  let _ ← keyword? "const"
  if ← ahead fun trees => atMark "!" trees && !atGroup .brace (trees.drop 1) then skip 1
  let _ ← g.type
  if ← keyword? "for" then
    let _ ← g.type
  where? g
  associatedItems g

/-- A module behind its keyword: its items in braces, or a semicolon. -/
def moduleItem (g : Rules) : Scan Unit := do
  if ← ahead (atKeyword "try") then skip 1 else identifier
  if ← mark? ";" then return
  else
    inside .brace do
      innerAttributes g
      loop () fun _ => do
        if ← atEnd then return ((), false)
        outerAttributes g
        g.rule .item
        return ((), true)

/-- An external crate behind its keywords. -/
def externalCrate : Scan Unit := do
  if ← ahead (atKeyword "self") then skip 1 else identifier
  if ← keyword? "as" then
    if ← ahead (atKeyword "_") then skip 1 else identifier
  mark ";"

/-- A macro by example behind its keyword. -/
def macroDefinition : Scan Unit := do
  identifier
  if ← ahead (atGroup .paren) then skip 1
  takeIf (atGroup .brace)

def itemRule (g : Rules) : Scan Unit := do
  visibility?
  let trees ← get
  let behind := trees.drop 1
  if atSignature trees then function g
  else if atKeyword "extern" trees && atKeyword "crate" behind then
    skip 2
    externalCrate
  else if atKeyword "extern" trees then
    convention
    associatedItems g
  else if atKeyword "use" trees then skip 1; useItem
  else if atKeyword "static" trees then skip 1; staticItem g
  else if atKeyword "const" trees then skip 1; constItem g
  else if atKeyword "unsafe" trees && atKeyword "extern" behind then
    skip 1
    convention
    associatedItems g
  else if atKeyword "unsafe" trees && atKeyword "mod" behind then
    skip 2
    moduleItem g
  else if atKeyword "mod" trees then skip 1; moduleItem g
  else if atKeyword "type" trees then skip 1; typeItem g
  else if atKeyword "struct" trees then skip 1; structItem g
  else if atKeyword "enum" trees then skip 1; enumItem g
  else if atKeyword "union" trees && atIdentifier behind then
    skip 1
    identifier
    generics? g
    where? g
    namedFields g
  else if atKeyword "macro" trees then skip 1; macroDefinition
  else
    let _ ← keyword? "default"
    let _ ← keyword? "unsafe"
    let _ ← keyword? "auto"
    let trees ← get
    if atKeyword "trait" trees then traitItem g
    else if atKeyword "impl" trees then implItem g
    else macroItem

end NativeThunks.Grammar
