import PlanarSketch.Json.Basic

/-!
# Numbers as given

A setting keeps the number it was given: a whole number of any size, a double, or a truth value
standing for one or zero. Numbers of different forms are compared exactly (`Number.lt`), and each
has a nearest double (`Number.nearest`).
-/

set_option autoImplicit false

namespace PlanarSketch

/-- A number in the form it was given. -/
inductive Number where
  | truth (value : Bool)
  | whole (value : Int)
  | double (value : Float)
deriving Inhabited

namespace Number

def ofJson? : Json → Option Number
  | .bool value => some (truth value)
  | .int value => some (whole value)
  | .float value => some (double value)
  | _ => none

def toJson : Number → Json
  | truth value => .bool value
  | whole value => .int value
  | double value => .float value

/-- A number as messages show it. -/
def display (number : Number) : String := number.toJson.display

/-- Every number is read back from its value. -/
theorem ofJson?_toJson (number : Number) : ofJson? number.toJson = some number := by
  cases number <;> rfl

/-- The nearest double; infinite when a whole number is too large. -/
def nearest : Number → Float
  | truth value => if value then 1.0 else 0.0
  | whole value => Binary64.ofInt value
  | double value => value

def isOversize : Number → Bool
  | whole value => (Binary64.ofInt value).isInf
  | _ => false

/-- A number with an exact value: a finite one as mantissa and power of two, or an infinite one. -/
inductive Exact where
  | finite (mantissa exponent : Int)
  | infinite (negative : Bool)
  | undefined

/-- The exact value of a number. -/
def exact : Number → Exact
  | truth value => .finite (if value then 1 else 0) 0
  | whole value => .finite value 0
  | double value =>
    if value.isNaN then .undefined
    else if value.isInf then .infinite (value < 0.0)
    else
      let parts := Dyadic.ofFloat value
      .finite (if parts.negative then -(parts.mantissa : Int) else parts.mantissa) parts.exponent

/-- Exact strict order. -/
def Exact.lt : Exact → Exact → Bool
  | .finite m e, .finite n f =>
    let low := min e f
    decide (m * Int.pow 2 (e - low).toNat < n * Int.pow 2 (f - low).toNat)
  | .finite _ _, .infinite negative => !negative
  | .infinite negative, .finite _ _ => negative
  | .infinite true, .infinite false => true
  | _, _ => false

/-- Strictly less, compared exactly whatever the forms. -/
def lt (a b : Number) : Bool := a.exact.lt b.exact

def zero : Number := whole 0

def one : Number := whole 1

def isPositive (number : Number) : Bool := lt zero number

/-- Neither negative nor undefined. -/
def isNonNegative (number : Number) : Bool :=
  match number.exact with
  | .undefined => false
  | value => !value.lt zero.exact

def isAtMostOne (number : Number) : Bool :=
  match number.exact with
  | .undefined => false
  | value => !one.exact.lt value

/-- The least double that is not below a positive number, so a double is below the one exactly when
it is below the other. -/
def roundedUp (number : Number) : Float :=
  let x := number.nearest
  if lt (double x) number then Float.ofBits (x.toBits + 1) else x

end Number

end PlanarSketch
