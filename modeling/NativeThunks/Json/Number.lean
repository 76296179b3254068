import NativeThunks.Json.Node

/-! Numbers of JSON documents: their spelling and their value. A whole number that fits 64 bits is
exact. Any other is a double-precision value, formed from the digits that fit 64 bits and one power
of ten. -/
namespace NativeThunks.Json
open NativeThunks.Decimal

/-- The parts of a number's spelling, without its sign. -/
structure NumberText where
  whole : List Char
  fraction : Option (List Char)
  /-- Whether the exponent is negative, and its digits. -/
  exponent : Option (Bool × List Char)
deriving DecidableEq, Repr

def digitValue (c : Char) : Nat := c.toNat - '0'.toNat

/-- A spelling that breaks off: for a decoder the end of the text and a wrong character differ. -/
def brokenNumber (rest : List Char) : SyntaxFault × SyntaxFault :=
  (if rest.isEmpty then .endInValue else .invalidNumber, .invalidNumber)

/-- The exponent behind its letter. -/
def takeExponent (text : List Char) :
    Except (SyntaxFault × SyntaxFault) ((Bool × List Char) × List Char) :=
  let (negative, rest) :=
    match text with
    | '+' :: rest => (false, rest)
    | '-' :: rest => (true, rest)
    | _ => (false, text)
  let digits := rest.takeWhile Char.isDigit
  let behind := rest.dropWhile Char.isDigit
  if digits.isEmpty then .error (brokenNumber behind) else .ok ((negative, digits), behind)

/-- The optional exponent at the front of the text. -/
def takeExponent? (text : List Char) :
    Except (SyntaxFault × SyntaxFault) (Option (Bool × List Char) × List Char) :=
  match text with
  | c :: rest =>
    if c == 'e' || c == 'E' then (takeExponent rest).map fun (found, behind) => (some found, behind)
    else .ok (none, text)
  | [] => .ok (none, text)

/-- The number at the front of the text, behind its sign. A zero stands alone before the point. The
faults are those for decoding and for skipping. -/
def takeNumber (text : List Char) :
    Except (SyntaxFault × SyntaxFault) (NumberText × List Char) := do
  let whole := text.takeWhile Char.isDigit
  let behind := text.dropWhile Char.isDigit
  if whole.isEmpty then .error (brokenNumber behind)
  else if whole.head? = some '0' ∧ 1 < whole.length then .error (.invalidNumber, .invalidNumber)
  else
    match behind with
    | '.' :: rest =>
      let digits := rest.takeWhile Char.isDigit
      let behind := rest.dropWhile Char.isDigit
      if digits.isEmpty then .error (brokenNumber behind)
      else
        let (exponent, behind) ← takeExponent? behind
        .ok (⟨whole, some digits, exponent⟩, behind)
    | _ =>
      let (exponent, behind) ← takeExponent? behind
      .ok (⟨whole, none, exponent⟩, behind)

/-- Adds digits to a number as long as it fits 64 bits. Answers the number and the digits left. -/
def accumulate : Nat → List Char → Nat × List Char
  | total, [] => (total, [])
  | total, c :: rest =>
    let next := total * 10 + digitValue c
    if next < Nat.pow 2 64 then accumulate next rest else (total, c :: rest)

/-- The nearest double to a power of ten. -/
def powerOfTen (n : Nat) : Binary64 := (Binary64.ofRatio? (Nat.pow 10 n) 1).getD .zero

/-- A double times a power of ten. Beyond the greatest power the value is out of range or shrinks
in steps; fuel bounds the steps, after which nothing but zero is left. -/
def scaleByTen : Nat → Binary64 → Int → Option Binary64
  | 0, _, _ => some .zero
  | fuel + 1, value, exponent =>
    if exponent.natAbs ≤ 308 then
      if 0 ≤ exponent then value.mul? (powerOfTen exponent.toNat)
      else value.div? (powerOfTen exponent.natAbs)
    else if value.mantissa = 0 then some value
    else if 0 ≤ exponent then none
    else
      match value.div? (powerOfTen 308) with
      | some smaller => scaleByTen fuel smaller (exponent + 308)
      | none => none

/-- The largest exponent that is counted. -/
def exponentLimit : Nat := 2147483647

/-- The value of an exponent's digits, or nothing beyond the largest one. -/
def exponentValue? (digits : List Char) : Option Nat :=
  let value := digits.foldl (fun total c => total * 10 + digitValue c) 0
  if value ≤ exponentLimit then some value else none

def NumberText.value (text : NumberText) (negative : Bool) : Except SyntaxFault Number :=
  let (whole, left) := accumulate 0 text.whole
  let (digits, fractionLeft) := accumulate whole (text.fraction.getD [])
  let places : Int := left.length - ((text.fraction.getD []).length - fractionLeft.length : Nat)
  let asFloat (exponent : Int) : Except SyntaxFault Number :=
    match (Binary64.ofRatio? digits 1).bind (scaleByTen 8 · exponent) with
    | some value => .ok (.float negative value)
    | none => .error .numberOutOfRange
  match text.exponent with
  | some (below, exponent) =>
    match exponentValue? exponent with
    | some exponent => asFloat (if below then places - exponent else places + exponent)
    | none =>
      if below ∨ digits = 0 then .ok (.float negative .zero) else .error .numberOutOfRange
  | none =>
    if text.fraction.isSome ∨ left ≠ [] then asFloat places
    else if !negative then .ok (.whole whole)
    else if whole = 0 ∨ Nat.pow 2 63 < whole then asFloat 0
    else .ok (.negative whole)

end NativeThunks.Json
