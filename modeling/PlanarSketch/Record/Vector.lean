import PlanarSketch.Json.Arithmetic
import PlanarSketch.Relation

/-!
# Vectors given as values

A vector is given by a value whose items are numbers, none too large for a double. Its length takes
all components in, and the angle between two vectors takes the first two of each. The scalar product
is computed on the numbers as given, so it stays exact for whole numbers whose product is beyond the
doubles.
-/

set_option autoImplicit false

namespace PlanarSketch

namespace Number

def length (components : List Number) : Float := Binary64.length (components.map nearest)

/-- A component of a vector. -/
def component (components : List Number) (index : Nat) : Except (Error Float) Number :=
  match components[index]? with
  | some number => .ok number
  | none => .error (.position .part)

/-- The scalar product of the first two components of two vectors. -/
def dot (a b : List Number) : Except (Error Float) Number := do
  let first ← mul (← component a 0) (← component b 0)
  let second ← mul (← component a 1) (← component b 1)
  add first second

/-- The angle in `[0, π]` between two vectors; a right angle when one of them is zero. -/
def angleBetween (a b : List Number) : Except (Error Float) Float := do
  let lengths := length a * length b
  if Scalar.isZero lengths then return Relation.rightAngle
  else return Relation.angleOfCosine ((← (← dot a b).toDouble) / lengths)

end Number

namespace Json

/-- A value as a component of a vector. -/
def component (value : Json) : Except (Error Float) Number := do
  let number ← value.toNumber
  if number.isOversize then .error .tooLarge else return number

/-- The angle between two vectors given as values. Both must have items before any of those is
looked at. -/
def angleBetween (a b : Json) : Except (Error Float) Float := do
  let first ← a.items
  let second ← b.items
  Number.angleBetween (← first.mapM component) (← second.mapM component)

end Json

end PlanarSketch
