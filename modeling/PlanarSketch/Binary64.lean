import PlanarSketch.Rounding
import PlanarSketch.Scalar

/-!
# Double-precision numbers

A finite double is a signed whole number times a power of two (`Dyadic`). Going back from such a
pair to a double rounds to the nearest one, a half to the even mantissa (`Dyadic.nearest`); what is
too large becomes infinite, and below the normal range the spacing stays at `2 ^ -1074`.

The length of a vector is computed exactly in whole numbers and rounded once (`Binary64.length`), so
it neither overflows nor underflows before its result does.
-/

set_option autoImplicit false

namespace PlanarSketch

/-- A finite number `± mantissa * 2 ^ exponent`. -/
structure Dyadic where
  negative : Bool
  mantissa : Nat
  exponent : Int

namespace Dyadic

/-- The parts of a finite double. -/
def ofFloat (x : Float) : Dyadic :=
  let bits := x.toBits.toNat
  let biased := bits / Nat.pow 2 52 % Nat.pow 2 11
  let fraction := bits % Nat.pow 2 52
  { negative := decide (Nat.pow 2 63 ≤ bits)
    mantissa := if biased = 0 then fraction else Nat.pow 2 52 + fraction
    exponent := ((max biased 1 : Nat) : Int) - 1075 }

/-- The encoding of positive infinity, which is also where rounding a too large number ends. -/
def infinityBits : Nat := 2047 * Nat.pow 2 52

/-- The double nearest to `mantissa * 2 ^ exponent`, a half to the even mantissa. -/
def nearest (mantissa : Nat) (exponent : Int) : Float :=
  if mantissa = 0 then 0.0
  else
    let quantum : Int := max ((mantissa.log2 : Int) + exponent - 52) (-1074)
    let steps :=
      if quantum ≤ exponent then mantissa * Nat.pow 2 (exponent - quantum).toNat
      else divNearest mantissa (Nat.pow 2 (quantum - exponent).toNat)
    let bits := (quantum + 1074).toNat * Nat.pow 2 52 + steps
    Float.ofBits (min bits infinityBits).toUInt64

end Dyadic

namespace Binary64

def infinity : Float := Float.ofBits Dyadic.infinityBits.toUInt64

def undefined : Float := Float.ofBits (Dyadic.infinityBits + Nat.pow 2 51).toUInt64

/-- Completes `root` by the `bits` lower binary digits of the whole square root of `n`, the highest
digit first. -/
def sqrtDigits (n : Nat) : Nat → Nat → Nat
  | 0, root => root
  | bits + 1, root =>
    let larger := root + Nat.pow 2 bits
    sqrtDigits n bits (if larger * larger ≤ n then larger else root)

/-- The double nearest to the square root of `n * 4 ^ exponent`. The radicand is brought to 113 or
114 binary digits, so its whole root has 57; what was cut off only has to be remembered as a last
digit below the half. -/
def sqrtNearest (n : Nat) (exponent : Int) : Float :=
  let half := ((n.log2 : Int) - 112) / 2
  let radicand := if 0 ≤ half then n / Nat.pow 4 half.toNat else n * Nat.pow 4 (-half).toNat
  let root := sqrtDigits radicand 57 0
  let exact := root * root = radicand ∧ (0 ≤ half → n % Nat.pow 4 half.toNat = 0)
  Dyadic.nearest (2 * root + if exact then 0 else 1) (exponent + half - 1)

/-- The length of a vector: infinite as soon as one component is, otherwise the double nearest to
the exact length. -/
def length (components : List Float) : Float :=
  if components.any Float.isInf then infinity
  else if components.any Float.isNaN then undefined
  else
    let parts := components.map Dyadic.ofFloat
    let exponent := parts.foldl (fun least part => min least part.exponent) 0
    let square (part : Dyadic) : Nat :=
      let steps := part.mantissa * Nat.pow 2 (part.exponent - exponent).toNat
      steps * steps
    let n := parts.foldl (fun total part => total + square part) 0
    if n = 0 then 0.0 else sqrtNearest n exponent

def hypot (x y : Float) : Float := length [x, y]

/-- The double nearest to a whole number; infinite when the number is too large. -/
def ofInt (n : Int) : Float :=
  let magnitude := Dyadic.nearest n.natAbs 0
  if n < 0 then -magnitude else magnitude

end Binary64

instance : Scalar Float where
  ofNat n := Binary64.ofInt n
  abs := Float.abs
  sqrt := Float.sqrt
  hypot := Binary64.hypot
  arccos := Float.acos
  pi := 3.141592653589793
  lt x y := decide (x < y)
  same x y := x == y
  isFinite := Float.isFinite

end PlanarSketch
