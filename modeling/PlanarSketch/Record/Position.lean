import PlanarSketch.Json.Arithmetic

/-!
# Positions given as values

A position counts from the front, starting at zero, or from the end when it is negative. Truth
values count as one and zero. Positions are counted in machine words with a sign, so a number that
no such word holds is not just out of range (`Position.isCountable`).
-/

set_option autoImplicit false

namespace PlanarSketch

namespace Position

/-- The place that a position stands for among `size` places. -/
def place? (size : Nat) (index : Int) : Option Nat :=
  let place := if index < 0 then index + size else index
  if 0 ≤ place ∧ place < size then some place.toNat else none

/-- Whether a machine word of 64 bits with a sign holds a position. -/
def isCountable (index : Int) : Bool := -9223372036854775808 ≤ index && index < 9223372036854775808

/-- Whether a machine word of 64 bits without a sign holds a position. -/
def isUnsigned (index : Int) : Bool := 0 ≤ index && index < 18446744073709551616

/-- The place that a value stands for among `size` places. -/
def ofJson (size : Nat) (absent : PositionError) (value : Json) : Except (Error Float) Nat :=
  match (Number.ofJson? value).bind Number.whole? with
  | none => .error (.mismatch (.notPosition value))
  | some index =>
    if isCountable index then
      match place? size index with
      | some place => .ok place
      | none => .error (.position absent)
    else .error (.position .uncountable)

end Position

end PlanarSketch
