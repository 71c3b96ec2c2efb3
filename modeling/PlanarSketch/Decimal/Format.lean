import PlanarSketch.Decimal.Digits

/-!
# Numbers as text

Three ways to write a double:

* `Decimal.shortest`: the fewest digits that read back, positional from `0.0001` up to below
  `10 ^ 16`, with a point always; otherwise with an exponent of at least two digits;
* `Decimal.scientific`: a given number of digits after the point, always with an exponent;
* `Decimal.general`: six significant digits without zeros at the end, positional from `0.0001` up to
  below `10 ^ 6`.

What is not finite is written `nan`, `inf` and `-inf`.
-/

set_option autoImplicit false

namespace PlanarSketch

namespace Decimal

/-- The sign as text; only a minus is written. -/
def signChars (negative : Bool) : List Char := if negative then ['-'] else []

/-- An exponent: sign and at least two digits. -/
def exponentChars (exponent : Int) : List Char :=
  let digits := Nat.toDigits 10 exponent.natAbs
  ['e', if exponent < 0 then '-' else '+'] ++ List.replicate (2 - digits.length) '0' ++ digits

/-- Digits with a point after the first one, if there are more. -/
def pointed : List Char → List Char
  | [] => []
  | [first] => [first]
  | first :: rest => first :: '.' :: rest

/-- Digits written positionally, the first standing for `10 ^ exponent`; no point when there is
nothing after it. -/
def positional (digits : List Char) (exponent : Int) : List Char :=
  if exponent < 0 then
    ['0', '.'] ++ List.replicate (-exponent - 1).toNat '0' ++ digits
  else
    let whole := exponent.toNat + 1
    let front := digits.take whole ++ List.replicate (whole - digits.length) '0'
    match digits.drop whole with
    | [] => front
    | rest => front ++ '.' :: rest

/-- Writes a number that is not finite by its name and a finite one by its parts. -/
def ofParts (x : Float) (finite : Dyadic → List Char) : String :=
  if x.isNaN then "nan"
  else if x.isInf then (if x < 0.0 then "-inf" else "inf")
  else
    let parts := Dyadic.ofFloat x
    String.ofList (signChars parts.negative ++ finite parts)

/-- The numerator and denominator of a finite number's magnitude. -/
def fraction (x : Dyadic) : Nat × Nat :=
  if 0 ≤ x.exponent then (x.mantissa * Nat.pow 2 x.exponent.toNat, 1)
  else (x.mantissa, Nat.pow 2 (-x.exponent).toNat)

/-- The shortest text that reads back as the number. -/
def shortest (x : Float) : String :=
  ofParts x fun parts =>
    if parts.mantissa = 0 then "0.0".toList
    else
      let digits := Digits.shortest parts
      let chars := digits.trimmedChars
      if -4 ≤ digits.exponent ∧ digits.exponent < 16 then
        let text := positional chars digits.exponent
        if text.contains '.' then text else text ++ ['.', '0']
      else pointed chars ++ exponentChars digits.exponent

/-- `places` digits after the point and an exponent. -/
def scientific (places : Nat) (x : Float) : String :=
  ofParts x fun parts =>
    if parts.mantissa = 0 then
      pointed (List.replicate (places + 1) '0') ++ exponentChars 0
    else
      let ratio := fraction parts
      let digits := Digits.rounded ratio.1 ratio.2 (places + 1)
      pointed digits.toChars ++ exponentChars digits.exponent

/-- Six significant digits, zeros at the end dropped. -/
def general (x : Float) : String :=
  ofParts x fun parts =>
    if parts.mantissa = 0 then ['0']
    else
      let ratio := fraction parts
      let digits := Digits.rounded ratio.1 ratio.2 6
      let chars := digits.trimmedChars
      if -4 ≤ digits.exponent ∧ digits.exponent < 6 then positional chars digits.exponent
      else pointed chars ++ exponentChars digits.exponent

end Decimal

end PlanarSketch
