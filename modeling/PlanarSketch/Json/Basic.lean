import PlanarSketch.Decimal.Format
import PlanarSketch.Text.Quoted

/-!
# JSON values

The dynamic values a sketch is described by. Whole numbers and doubles stay apart, since messages
and checks tell them apart, and the fields of an object keep their order.

`Json.display` is how messages show a value; `Json.typeName` is how they name what it is.
-/

set_option autoImplicit false

namespace PlanarSketch

inductive Json where
  | null
  | bool (value : Bool)
  | int (value : Int)
  | float (value : Float)
  | str (text : Text)
  | arr (items : List Json)
  | obj (fields : List (Text × Json))
deriving Inhabited

namespace Json

/-- What a value is, as messages name it. -/
def typeName : Json → String
  | null => "NoneType"
  | bool _ => "bool"
  | int _ => "int"
  | float _ => "float"
  | str _ => "str"
  | arr _ => "list"
  | obj _ => "dict"

/-- A whole number in decimal digits. -/
def intText (n : Int) : String :=
  let digits := String.ofList (Nat.toDigits 10 n.natAbs)
  if n < 0 then "-" ++ digits else digits

mutual

/-- A value as messages show it. -/
def display : Json → String
  | null => "None"
  | bool true => "True"
  | bool false => "False"
  | int n => intText n
  | float x => Decimal.shortest x
  | str text => text.quoted
  | arr items => "[" ++ ", ".intercalate (displayItems items) ++ "]"
  | obj fields => "\x7b" ++ ", ".intercalate (displayFields fields) ++ "\x7d"

def displayItems : List Json → List String
  | [] => []
  | item :: rest => display item :: displayItems rest

def displayFields : List (Text × Json) → List String
  | [] => []
  | (name, value) :: rest => (name.quoted ++ ": " ++ display value) :: displayFields rest

end

/-- A value as plain text: a text stands for itself, anything else is displayed. -/
def plain : Json → Text
  | str text => text
  | value => display value

/-- Whether a value counts as true: everything but null, false, zero and what is empty. -/
def truthy : Json → Bool
  | null => false
  | bool value => value
  | int n => n != 0
  | float x => x != 0.0
  | str text => !text.isEmpty
  | arr items => !items.isEmpty
  | obj fields => !fields.isEmpty

def field? (name : Text) (fields : List (Text × Json)) : Option Json :=
  (fields.find? fun field => field.1 == name).map (·.2)

/-- Sets a field: an existing one keeps its place, a new one comes last. -/
def setField (name : Text) (value : Json) : List (Text × Json) → List (Text × Json)
  | [] => [(name, value)]
  | (other, old) :: rest =>
    if other = name then (name, value) :: rest else (other, old) :: setField name value rest

end Json

end PlanarSketch
