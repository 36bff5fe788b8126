import SuiteBridge.Binary64.Basic
import SuiteBridge.Text.Numeral

/-!
# Shortest decimal digits

The decimal digits of a double: as few as still read back as the same double, and of those the
ones nearest to it. The reals that round to a double form an interval around it, whose ends belong
to it exactly when the mantissa is even. For each number of digits, the two neighbours of the
double on that decimal grid are tried; the first grid with a hit wins.
-/

namespace SuiteBridge.Binary64

/-- A decimal `digits · 10 ^ power`, written with the digits of a number. -/
structure Decimal where
  digits : Nat
  power : Int
  deriving DecidableEq, Repr

/-- The reals that round to a double, as numerators over `denominator`: the double itself and the
ends of the interval, which belong to it when `closed`. -/
structure Interval where
  low : Nat
  middle : Nat
  high : Nat
  denominator : Nat
  closed : Bool

/-- The interval of a double that is not zero. The gap below a power of two is half as wide. -/
def interval (x : Binary64) : Interval :=
  let low :=
    if x.mantissa = leastMantissa ∧ leastExponent < x.exponent then 4 * x.mantissa - 1
    else 4 * x.mantissa - 2
  let (num, den) := ratio 1 (x.exponent - 2)
  ⟨low * num, 4 * x.mantissa * num, (4 * x.mantissa + 2) * num, den, x.mantissa % 2 == 0⟩

/-- The powers of ten by which a numerator and a denominator are multiplied to count in units of
`10 ^ power`. -/
def units (power : Int) : Nat × Nat :=
  if 0 ≤ power then (1, Nat.pow 10 power.toNat) else (Nat.pow 10 (-power).toNat, 1)

/-- The power of ten of the leading digit of `num / den`. -/
def leadingPower (num den : Nat) : Int :=
  let guess : Int := (Text.decimal num).length - (Text.decimal den).length
  let (up, down) := units guess
  if den * down ≤ num * up then guess else guess - 1

/-- The point of the grid with spacing `10 ^ power` that reads back as the double of the interval:
of two, the nearer, and the even one when they are equally near. -/
def onGrid? (i : Interval) (power : Int) : Option Nat :=
  let (up, down) := units power
  let spacing := i.denominator * down
  let below := i.middle * up / spacing
  let inside (d : Nat) : Bool :=
    let point := d * spacing
    if i.closed then i.low * up ≤ point && point ≤ i.high * up
    else i.low * up < point && point < i.high * up
  let toBelow := i.middle * up - below * spacing
  let toAbove := (below + 1) * spacing - i.middle * up
  match inside below, inside (below + 1) with
  | true, false => some below
  | false, true => some (below + 1)
  | true, true =>
    if toBelow < toAbove ∨ (toBelow = toAbove ∧ below % 2 = 0) then some below
    else some (below + 1)
  | false, false => none

/-- The hit on the first of `tries` grids, those with `count`, `count + 1`, … digits. -/
def firstHit (i : Interval) (leading : Int) (count : Nat) : (tries : Nat) → Decimal
  | 0 => ⟨0, 0⟩
  | tries + 1 =>
    let power := leading - count + 1
    match onGrid? i power with
    | some d => ⟨d, power⟩
    | none => firstHit i leading (count + 1) tries

/-- The shortest decimal of a double that is not zero; seventeen digits always suffice. -/
def shortest (x : Binary64) : Decimal :=
  let i := interval x
  firstHit i (leadingPower i.middle i.denominator) 1 17

end SuiteBridge.Binary64
