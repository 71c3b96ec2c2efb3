import PlanarSketch.Json.Convert

/-!
# Computing with numbers as given

Sums, differences and products of whole numbers are exact, whatever their size; as soon as a double
takes part, both numbers are taken as doubles first, and a whole number that is too large for one is
an error. Truth values count as one and zero.
-/

set_option autoImplicit false

namespace PlanarSketch

namespace Number

/-- The nearest double; a whole number that is too large has none. -/
def toDouble (number : Number) : Except (Error Float) Float :=
  if number.isOversize then .error .tooLarge else .ok number.nearest

/-- The whole number that a number is, unless it is a double. -/
def whole? : Number → Option Int
  | truth value => some (if value then 1 else 0)
  | whole value => some value
  | double _ => none

/-- Combines two numbers, exactly when both are whole. -/
def combine (exact : Int → Int → Int) (rounded : Float → Float → Float) (a b : Number) :
    Except (Error Float) Number :=
  match a.whole?, b.whole? with
  | some m, some n => .ok (whole (exact m n))
  | _, _ => do return double (rounded (← a.toDouble) (← b.toDouble))

def add (a b : Number) : Except (Error Float) Number :=
  combine (fun m n => m + n) (fun x y => x + y) a b

def sub (a b : Number) : Except (Error Float) Number :=
  combine (fun m n => m - n) (fun x y => x - y) a b

def mul (a b : Number) : Except (Error Float) Number :=
  combine (fun m n => m * n) (fun x y => x * y) a b

end Number

namespace Json

/-- A value as a number to compute with; a text is none. -/
def toNumber (value : Json) : Except (Error Float) Number :=
  match Number.ofJson? value with
  | some number => .ok number
  | none => .error (.mismatch (.notNumber value))

end Json

end PlanarSketch
