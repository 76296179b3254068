/-! Double-precision numbers as exact values: a whole number times a power of two. Only finite,
non-negative values appear; signs are kept beside them. -/
namespace NativeThunks.Decimal

/-- The value `mantissa * 2 ^ exponent`. A nonzero value is kept with the smallest exponent that the
format allows, so its mantissa has 53 bits unless the exponent is the least one. -/
structure Binary64 where
  mantissa : Nat
  exponent : Int
deriving DecidableEq, Repr

namespace Binary64

def leastExponent : Int := -1074

def greatestExponent : Int := 971

def zero : Binary64 := ⟨0, leastExponent⟩

/-- The numerator and denominator of a ratio times a power of two. -/
def scaled (num den : Nat) (power : Int) : Nat × Nat :=
  if 0 ≤ power then (num * Nat.pow 2 power.toNat, den) else (num, den * Nat.pow 2 (-power).toNat)

/-- A ratio rounded to a whole number, a half to the even neighbour. -/
def roundHalfEven (num den : Nat) : Nat :=
  let quotient := num / den
  let twice := 2 * (num % den)
  if twice < den ∨ (twice = den ∧ quotient % 2 = 0) then quotient else quotient + 1

/-- The value of the format nearest to a ratio, or nothing if the ratio is too large for it. -/
def ofRatio? (num den : Nat) : Option Binary64 :=
  if num = 0 then some zero
  else
    let guess : Int := (num.log2 : Int) - (den.log2 : Int) - 52
    -- The guess is right or one too large.
    let fits (exponent : Int) : Bool :=
      let (n, d) := scaled num den (-exponent)
      Nat.pow 2 52 * d ≤ n
    let exponent := if fits guess then guess else guess - 1
    let exponent := max exponent leastExponent
    let (n, d) := scaled num den (-exponent)
    let mantissa := roundHalfEven n d
    let (mantissa, exponent) :=
      if mantissa = Nat.pow 2 53 then (Nat.pow 2 52, exponent + 1) else (mantissa, exponent)
    if exponent ≤ greatestExponent then some ⟨mantissa, exponent⟩ else none

def toRatio (x : Binary64) : Nat × Nat := scaled x.mantissa 1 x.exponent

/-- The rounded product. -/
def mul? (x y : Binary64) : Option Binary64 :=
  let (a, b) := x.toRatio
  let (c, d) := y.toRatio
  ofRatio? (a * c) (b * d)

/-- The rounded quotient by a value that is not zero. -/
def div? (x y : Binary64) : Option Binary64 :=
  let (a, b) := x.toRatio
  let (c, d) := y.toRatio
  ofRatio? (a * d) (b * c)

end Binary64

example : Binary64.ofRatio? 1 10 = some ⟨7205759403792794, -56⟩ := by decide +kernel
example : Binary64.ofRatio? (Nat.pow 2 1024) 1 = none := by decide +kernel

end NativeThunks.Decimal
