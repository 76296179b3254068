import NativeThunks.Decimal.Binary64

/-! The shortest decimal digits that read back as a double-precision value, and two ways to write
them. -/
namespace NativeThunks.Decimal

/-- The value `digits * 10 ^ exponent`. -/
structure Digits where
  digits : Nat
  exponent : Int
deriving DecidableEq, Repr

/-- Compares a decimal value with a ratio: its own numerator over the common denominator comes
first. -/
def Digits.crossed (value : Digits) (num den : Nat) : Nat × Nat :=
  if 0 ≤ value.exponent then (value.digits * Nat.pow 10 value.exponent.toNat * den, num)
  else (value.digits * den, num * Nat.pow 10 (-value.exponent).toNat)

/-- Whether a decimal value rounds to the binary value: it lies between the midpoints to the
neighbours, ends included when the mantissa is even. -/
def readsBack (x : Binary64) (value : Digits) : Bool :=
  let narrow := x.mantissa = Nat.pow 2 52 ∧ Binary64.leastExponent < x.exponent
  -- In quarters of a unit, the lower neighbour of a power of two is half as far away.
  let (upper, d) := Binary64.scaled (4 * x.mantissa + 2) 4 x.exponent
  let (lower, _) := Binary64.scaled (4 * x.mantissa - (if narrow then 1 else 2)) 4 x.exponent
  let (v, high) := value.crossed upper d
  let (v', low) := value.crossed lower d
  if x.mantissa % 2 = 0 then low ≤ v' && v ≤ high else low < v' && v < high

def digitCount (n : Nat) : Nat := (Nat.toDigits 10 n).length

/-- Digits without trailing zeros. Fuel bounds their number. -/
def Digits.trimmed : Nat → Digits → Digits
  | 0, value => value
  | fuel + 1, value =>
    if value.digits % 10 = 0 ∧ value.digits ≠ 0 then
      trimmed fuel ⟨value.digits / 10, value.exponent + 1⟩
    else value

/-- The nearest decimal with a given power of ten, if one of the two neighbours reads back. -/
def nearestOn? (x : Binary64) (exponent : Int) : Option Digits :=
  let (num, den) := x.toRatio
  let (n, d) :=
    if 0 ≤ exponent then (num, den * Nat.pow 10 exponent.toNat)
    else (num * Nat.pow 10 (-exponent).toNat, den)
  let below : Digits := ⟨n / d, exponent⟩
  let above : Digits := ⟨n / d + 1, exponent⟩
  let nearest := ⟨Binary64.roundHalfEven n d, exponent⟩
  let others := [nearest, below, above]
  others.find? fun value => value.digits ≠ 0 && readsBack x value

/-- The shortest digits that read back as a nonzero value. -/
def shortest (x : Binary64) : Digits :=
  let (num, den) := x.toRatio
  -- The power of ten of the leading digit.
  let lead : Int :=
    if den ≤ num then (digitCount (num / den) : Int) - 1
    else
      let shift := digitCount (den / num)
      if den ≤ num * Nat.pow 10 (shift - 1) then 1 - (shift : Int) else -(shift : Int)
  let found := (List.range 17).findSome? fun (i : Nat) => nearestOn? x (lead - i)
  (found.getD ⟨x.mantissa, 0⟩).trimmed 20

def zeros (count : Nat) : String := String.ofList (List.replicate count '0')

/-- A value with a decimal point, in powers of ten only when it is very large or very small: up to
sixteen digits before the point, or four zeros behind it, are written out. -/
def scientific (negative : Bool) (x : Binary64) : String :=
  let sign := if negative then "-" else ""
  if x.mantissa = 0 then sign ++ "0.0"
  else
    let value := shortest x
    let text := toString value.digits
    let length := text.length
    let point : Int := length + value.exponent
    sign ++
      if 0 ≤ value.exponent ∧ point ≤ 16 then text ++ zeros value.exponent.toNat ++ ".0"
      else if 0 < point ∧ point ≤ 16 then
        let chars := text.toList
        String.ofList (chars.take point.toNat) ++ "." ++ String.ofList (chars.drop point.toNat)
      else if -5 < point ∧ point ≤ 0 then "0." ++ zeros (-point).toNat ++ text
      else
        let chars := text.toList
        let tail := if length = 1 then "" else "." ++ String.ofList (chars.drop 1)
        String.ofList (chars.take 1) ++ tail ++ "e" ++ toString (point - 1)

/-- A value with a decimal point and all its digits written out. -/
def positional (negative : Bool) (x : Binary64) : String :=
  let sign := if negative then "-" else ""
  if x.mantissa = 0 then sign ++ "0.0"
  else
    let value := shortest x
    let text := toString value.digits
    let point : Int := text.length + value.exponent
    sign ++
      if 0 ≤ value.exponent then text ++ zeros value.exponent.toNat ++ ".0"
      else if 0 < point then
        let chars := text.toList
        String.ofList (chars.take point.toNat) ++ "." ++ String.ofList (chars.drop point.toNat)
      else "0." ++ zeros (-point).toNat ++ text

end NativeThunks.Decimal
