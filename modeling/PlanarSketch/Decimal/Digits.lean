import PlanarSketch.Binary64

/-!
# Decimal digits of a positive number

A positive number is given as a fraction `numerator / denominator`. Its *leading exponent* is the
`e` with `10 ^ e ≤ numerator / denominator < 10 ^ (e + 1)`. Two ways to pick digits start from it:

* `Digits.rounded` keeps a given number of significant digits and rounds the rest to nearest, a half
  to the even digit;
* `Digits.shortest` takes the fewest digits that still identify a double: of the decimals on the
  coarsest grid that has a point in the double's rounding interval, the one nearest to the double.
-/

set_option autoImplicit false

namespace PlanarSketch

/-- Significant digits with the power of ten of the first one: the number
`coefficient * 10 ^ (exponent - count + 1)`, where `coefficient` has `count` digits. -/
structure Digits where
  coefficient : Nat
  count : Nat
  exponent : Int
deriving Repr, DecidableEq

namespace Digits

/-- More than the number of decimal places between the largest and the smallest double. -/
def span : Nat := 700

/-- How often `denominator` can be multiplied by ten and still not exceed `numerator`. -/
def tensBelow : Nat → Nat → Nat → Nat
  | 0, _, _ => 0
  | fuel + 1, numerator, denominator =>
    if 10 * denominator ≤ numerator then tensBelow fuel numerator (10 * denominator) + 1 else 0

/-- How often `numerator` has to be multiplied by ten to reach `denominator`. -/
def tensAbove : Nat → Nat → Nat → Nat
  | 0, _, _ => 0
  | fuel + 1, numerator, denominator =>
    if numerator < denominator then tensAbove fuel (10 * numerator) denominator + 1 else 0

/-- The power of ten of the first significant digit. -/
def leadingExponent (numerator denominator : Nat) : Int :=
  if numerator < denominator then -(tensAbove span numerator denominator : Int)
  else tensBelow span numerator denominator

/-- The fraction `numerator / denominator` in units of `10 ^ scale`. -/
def inUnits (numerator denominator : Nat) (scale : Int) : Nat × Nat :=
  if 0 ≤ scale then (numerator, denominator * Nat.pow 10 scale.toNat)
  else (numerator * Nat.pow 10 (-scale).toNat, denominator)

/-- `count` significant digits, rounded to nearest with a half to the even digit. -/
def rounded (numerator denominator count : Nat) : Digits :=
  let exponent := leadingExponent numerator denominator
  let fraction := inUnits numerator denominator (exponent - count + 1)
  let coefficient := divNearest fraction.1 fraction.2
  if coefficient < Nat.pow 10 count then ⟨coefficient, count, exponent⟩
  else ⟨Nat.pow 10 (count - 1), count, exponent + 1⟩

/-- The numbers that round to a double, as numerators over one denominator. The interval is closed
when the mantissa is even, since a half goes to the even mantissa. -/
structure Interval where
  below : Nat
  value : Nat
  above : Nat
  denominator : Nat
  closed : Bool

/-- The rounding interval of a positive double, in quarters of its unit in the last place. Below a
power of two the spacing of doubles halves. -/
def Interval.ofDyadic (x : Dyadic) : Interval :=
  let halved := x.mantissa = Nat.pow 2 52 ∧ -1074 < x.exponent
  let scale : Nat := if 2 ≤ x.exponent then Nat.pow 2 (x.exponent - 2).toNat else 1
  { below := scale * (4 * x.mantissa - if halved then 1 else 2)
    value := scale * (4 * x.mantissa)
    above := scale * (4 * x.mantissa + 2)
    denominator := if 2 ≤ x.exponent then 1 else Nat.pow 2 (2 - x.exponent).toNat
    closed := x.mantissa % 2 = 0 }

/-- Whether `numerator / denominator` lies in the interval. -/
def Interval.contains (interval : Interval) (numerator denominator : Nat) : Bool :=
  let here := numerator * interval.denominator
  let low := interval.below * denominator
  let high := interval.above * denominator
  if interval.closed then decide (low ≤ here ∧ here ≤ high) else decide (low < here ∧ here < high)

/-- The best decimal of the grid with `count` digits: of the two neighbours of the value that lie in
the interval the nearer one, at equal distance the even one. -/
def onGrid (interval : Interval) (exponent : Int) (count : Nat) : Option Digits :=
  let scale := exponent - count + 1
  let fraction := inUnits interval.value interval.denominator scale
  let low := fraction.1 / fraction.2
  let member (coefficient : Nat) : Bool :=
    if 0 ≤ scale then interval.contains (coefficient * Nat.pow 10 scale.toNat) 1
    else interval.contains coefficient (Nat.pow 10 (-scale).toNat)
  let nearest := divNearest fraction.1 fraction.2
  let pick : Option Nat :=
    if member nearest then some nearest
    else if member low then some low
    else if member (low + 1) then some (low + 1)
    else none
  pick.map fun coefficient =>
    if coefficient < Nat.pow 10 count then ⟨coefficient, count, exponent⟩ else ⟨1, 1, exponent + 1⟩

/-- The fewest digits that identify a positive double; seventeen always do. -/
def shortest (x : Dyadic) : Digits :=
  let interval := Interval.ofDyadic x
  let exponent := leadingExponent interval.value interval.denominator
  ((List.range 17).findSome? fun k => onGrid interval exponent (k + 1)).getD
    (rounded interval.value interval.denominator 17)

def toChars (digits : Digits) : List Char :=
  let plain := Nat.toDigits 10 digits.coefficient
  List.replicate (digits.count - plain.length) '0' ++ plain

/-- The digits without the zeros at the end; one digit always stays. -/
def trimmedChars (digits : Digits) : List Char :=
  match (digits.toChars.reverse.dropWhile (· = '0')).reverse with
  | [] => ['0']
  | chars => chars

end Digits

end PlanarSketch
