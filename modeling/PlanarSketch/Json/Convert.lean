import PlanarSketch.Decimal.Literal
import PlanarSketch.Error

/-!
# What a value is taken for

Records are read generously: a number may be given as a text, a list by anything that has items, a
flag by any value. These are the conversions, with the error of each.
-/

set_option autoImplicit false

namespace PlanarSketch

namespace Json

/-- A value as a double: numbers and truth values by their nearest double, texts by the number they
write. -/
def toDouble : Json → Except (Error Float) Float
  | bool value => .ok (if value then 1.0 else 0.0)
  | int n =>
    let x := Binary64.ofInt n
    if x.isInf then .error .tooLarge else .ok x
  | float x => .ok x
  | str text =>
    match Decimal.read? text with
    | some x => .ok x
    | none => .error (.notNumeral text)
  | value => .error (.mismatch (.notNumeric value))

/-- The items of a value: those of a list, the characters of a text, the field names of an
object. -/
def items : Json → Except (Error Float) (List Json)
  | arr items => .ok items
  | str text => .ok (text.singletons.map str)
  | obj fields => .ok (fields.map fun field => str field.1)
  | value => .error (.mismatch (.notIterable value))

def fields : Json → Except (Error Float) (List (Text × Json))
  | obj fields => .ok fields
  | str _ => .error (.mismatch .fieldOfText)
  | arr _ => .error (.mismatch .fieldOfList)
  | value => .error (.mismatch (.fieldOf value))

/-- A field that a record must have. -/
def required (name : Text) (fields : List (Text × Json)) : Except (Error Float) Json :=
  match field? name fields with
  | some value => .ok value
  | none => .error (.mismatch (.missingField name))

/-- A field with what it means to leave it out. -/
def optional (name : Text) (default : Json) (fields : List (Text × Json)) : Json :=
  (field? name fields).getD default

end Json

end PlanarSketch
