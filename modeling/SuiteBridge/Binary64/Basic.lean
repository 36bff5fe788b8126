/-!
# Double-precision numbers

A finite double-precision number is a sign, a mantissa and a power of two. Arithmetic is exact
arithmetic on natural numbers followed by one rounding to the nearest double, halves going to the
even mantissa; a result too large for any double is `none`.
-/

namespace SuiteBridge

/-- The number `± mantissa · 2 ^ exponent`. A rounded number has a mantissa below `2 ^ 53` and an
exponent of at least `-1074`; unless the exponent is `-1074`, the mantissa is at least `2 ^ 52`. -/
structure Binary64 where
  negative : Bool
  mantissa : Nat
  exponent : Int
  deriving DecidableEq, Repr

namespace Binary64

/-- The least exponent of a double. -/
def leastExponent : Int := -1074

/-- The greatest exponent of a double. -/
def greatestExponent : Int := 971

/-- The least mantissa of 53 bits, `2 ^ 52`. -/
def leastMantissa : Nat := 0x10000000000000

/-- What every mantissa stays below, `2 ^ 53`. -/
def mantissaBound : Nat := 0x20000000000000

/-- A numerator and a denominator of `mantissa · 2 ^ exponent`. -/
def ratio (mantissa : Nat) (exponent : Int) : Nat × Nat :=
  if 0 ≤ exponent then (mantissa * Nat.pow 2 exponent.toNat, 1)
  else (mantissa, Nat.pow 2 (-exponent).toNat)

/-- The natural number nearest to `num / den`, a half going to the even neighbour. -/
def roundDiv (num den : Nat) : Nat :=
  let quotient := num / den
  let twice := 2 * (num % den)
  if den < twice ∨ (twice = den ∧ quotient % 2 = 1) then quotient + 1 else quotient

/-- `num / den` divided by `2 ^ exponent`, as a numerator and a denominator. -/
def scaled (num den : Nat) (exponent : Int) : Nat × Nat :=
  if 0 ≤ exponent then (num, den * Nat.pow 2 exponent.toNat)
  else (num * Nat.pow 2 (-exponent).toNat, den)

/-- The exponent of the doubles around `num / den`: the one that leaves a mantissa of 53 bits, as
far as there are such doubles. -/
def exponentFor (num den : Nat) : Int :=
  let guess : Int := max leastExponent ((num.log2 : Int) - den.log2 - 53)
  let (n, d) := scaled num den guess
  if mantissaBound ≤ n / d then guess + 1 else guess

/-- The positive double nearest to `num / den`; `none` when that is beyond the greatest double. -/
def nearest? (num den : Nat) : Option Binary64 :=
  let exponent := exponentFor num den
  let (n, d) := scaled num den exponent
  let mantissa := roundDiv n d
  let (mantissa, exponent) :=
    if mantissa = mantissaBound then (leastMantissa, exponent + 1) else (mantissa, exponent)
  if exponent ≤ greatestExponent then some ⟨false, mantissa, exponent⟩ else none

/-- Zero, with a sign. -/
def zero (negative : Bool) : Binary64 :=
  ⟨negative, 0, leastExponent⟩

/-- The number with the given sign in place of its own. -/
def withSign (negative : Bool) (x : Binary64) : Binary64 :=
  { x with negative }

/-- A number is zero when its mantissa is, whatever its sign. -/
def isZero (x : Binary64) : Bool :=
  x.mantissa == 0

/-- The product of two positive doubles. -/
def mul? (x y : Binary64) : Option Binary64 :=
  let (n₁, d₁) := ratio x.mantissa x.exponent
  let (n₂, d₂) := ratio y.mantissa y.exponent
  nearest? (n₁ * n₂) (d₁ * d₂)

/-- The quotient of a positive double and a positive double that is not zero. -/
def div? (x y : Binary64) : Option Binary64 :=
  let (n₁, d₁) := ratio x.mantissa x.exponent
  let (n₂, d₂) := ratio y.mantissa y.exponent
  nearest? (n₁ * d₂) (d₁ * n₂)

/-- The double nearest to `10 ^ k`. -/
def powerOfTen? (k : Nat) : Option Binary64 :=
  nearest? (Nat.pow 10 k) 1

/-- The largest `k` for which `10 ^ k` is within the doubles. -/
def greatestPower : Nat := 308

/-- The significand times `10 ^ exponent` in double arithmetic: the significand is rounded first,
and then one product or quotient with a rounded power of ten is; a power below `10 ^ -308` is
divided off in two steps. The significand is below `2 ^ 64`, so two steps reach zero. -/
def ofDecimal? (significand : Nat) (exponent : Int) : Option Binary64 := do
  let whole ← nearest? significand 1
  if whole.isZero then return whole
  if 0 ≤ exponent then
    if greatestPower < exponent.toNat then none
    whole.mul? (← powerOfTen? exponent.toNat)
  else
    let steps := (-exponent).toNat
    if steps ≤ greatestPower then
      whole.div? (← powerOfTen? steps)
    else if steps ≤ 2 * greatestPower then
      let once ← whole.div? (← powerOfTen? greatestPower)
      once.div? (← powerOfTen? (steps - greatestPower))
    else
      return zero false

end Binary64

end SuiteBridge
