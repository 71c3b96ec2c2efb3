import PlanarSketch.Decimal.Digits
import PlanarSketch.Text.Basic
import PlanarSketch.Text.Classes

/-!
# Reading numbers

`Decimal.value` turns a coefficient and a power of ten into the nearest double. `Decimal.read?`
reads a number text: blanks around it do not matter, digits may be of any script, a single
underscore may stand between two digits, and `inf`, `infinity` and `nan` are numbers in any case of
their letters.
-/

set_option autoImplicit false

namespace PlanarSketch

namespace Decimal

/-- The double nearest to `± coefficient * 10 ^ exponent`, where `coefficient` has at most `length`
digits. Far outside the range of doubles the answer does not depend on the digits. -/
def value (negative : Bool) (coefficient length : Nat) (exponent : Int) : Float :=
  let magnitude :=
    if coefficient = 0 then 0.0
    else if 310 < exponent then Binary64.infinity
    else if (length : Int) + exponent < -330 then 0.0
    else if 0 ≤ exponent then Float.ofScientific coefficient false exponent.toNat
    else Float.ofScientific coefficient true (-exponent).toNat
  if negative then -magnitude else magnitude

/-- The number written by ASCII digits. -/
def ofDigits (digits : List Char) : Nat :=
  digits.foldl (fun n c => 10 * n + (c.toNat - '0'.toNat)) 0

/-- Splits off the digits at the front. -/
def spanDigits : List CodePoint → List Char × List CodePoint
  | .char c :: rest =>
    if c.isDigit then
      let after := spanDigits rest
      (c :: after.1, after.2)
    else ([], .char c :: rest)
  | text => ([], text)

/-- Splits off a sign; only a minus makes the number negative. -/
def spanSign : List CodePoint → Bool × List CodePoint
  | .char '-' :: rest => (true, rest)
  | .char '+' :: rest => (false, rest)
  | text => (false, text)

/-- An exponent mark with a sign and at least one digit. -/
def spanExponent? : List CodePoint → Option (Int × List CodePoint)
  | mark :: rest =>
    if mark = .char 'e' ∨ mark = .char 'E' then
      let signed := spanSign rest
      match spanDigits signed.2 with
      | ([], _) => none
      | (digits, after) =>
        let magnitude : Int := ofDigits digits
        some (if signed.1 then -magnitude else magnitude, after)
    else none
  | [] => none

/-- A code point as ASCII: a digit of any script by its value, a blank as a space. Anything else
beyond ASCII has no place in a number. -/
def asciiChar? : CodePoint → Option Char
  | .char c =>
    if c.toNat < 128 then some c
    else if Text.isBlank c then some ' '
    else (Text.digitValue? c).map fun value => Char.ofNat ('0'.toNat + value)
  | .surrogate _ => none

/-- Drops blanks at both ends. -/
def trimBlanks (text : List Char) : List Char :=
  ((text.dropWhile Text.isBlank).reverse.dropWhile Text.isBlank).reverse

/-- Drops the underscores; each has to stand between two digits. -/
def dropUnderscores? : Option Char → List Char → Option (List Char)
  | _, [] => some []
  | before, '_' :: rest =>
    match before, rest with
    | some left, right :: _ =>
      if left.isDigit ∧ right.isDigit then dropUnderscores? (some '_') rest else none
    | _, _ => none
  | _, c :: rest => (dropUnderscores? (some c) rest).map (c :: ·)

/-- Reads an unsigned number that takes up the whole text. -/
def readUnsigned? (negative : Bool) (text : List CodePoint) : Option Float :=
  let word := Text.toLower ⟨text⟩
  if word = "inf" ∨ word = "infinity" then
    some (if negative then -Binary64.infinity else Binary64.infinity)
  else if word = "nan" then some Binary64.undefined
  else
    let whole := spanDigits text
    let part := match whole.2 with
      | .char '.' :: rest => spanDigits rest
      | rest => ([], rest)
    let digits := whole.1 ++ part.1
    if digits.isEmpty then none
    else
      let scale : Int := -part.1.length
      let finish (exponent : Int) : Float :=
        value negative (ofDigits digits) digits.length (scale + exponent)
      match part.2 with
      | [] => some (finish 0)
      | rest =>
        match spanExponent? rest with
        | some (exponent, []) => some (finish exponent)
        | _ => none

/-- Reads a number text. -/
def read? (text : Text) : Option Float := do
  let ascii ← text.points.mapM asciiChar?
  let plain ← dropUnderscores? none (trimBlanks ascii)
  let signed := spanSign (plain.map .char)
  readUnsigned? signed.1 signed.2

end Decimal

end PlanarSketch
