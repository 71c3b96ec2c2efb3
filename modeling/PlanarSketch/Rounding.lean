/-!
# Rounding a quotient

Decimal text and double-precision results are both quotients of natural numbers rounded to a whole
number. The rule is the same everywhere: to the nearest whole number, a half to the even one.
-/

set_option autoImplicit false

namespace PlanarSketch

/-- `numerator / denominator` to the nearest whole number, a half to the even neighbour. -/
def divNearest (numerator denominator : Nat) : Nat :=
  let quotient := numerator / denominator
  let remainder := numerator % denominator
  if 2 * remainder < denominator then quotient
  else if denominator < 2 * remainder then quotient + 1
  else quotient + quotient % 2

end PlanarSketch
