import PlanarSketch.Record.Position
import PlanarSketch.Record.Table

/-!
# Quantities given as values

Where a value is computed or compared with doubles as it stands, it is a quantity: a number, or
nested lists of numbers (`Json.toQuantity`). No text is read as a number here.

A quantity fails when one of its places does not hold a number. When all places hold texts or
numbers of machine size, it fails as a text among numbers does; otherwise the first place that holds
no number decides.

Some uses ask for more than a table. What is added to a number is itself a single number
(`Json.toSummand`), and a limit that one number is compared with has a single entry, in whatever
number of lists (`Json.toLimit`).
-/

set_option autoImplicit false

namespace PlanarSketch

namespace Json

def isText : Json → Bool
  | str _ => true
  | _ => false

/-- Whether a value is a text or a number of machine size. -/
def isPlain : Json → Bool
  | str _ | bool _ | float _ => true
  | int n => Position.isCountable n || Position.isUnsigned n
  | _ => false

/-- A value as one number of a quantity. -/
def toPart (value : Json) : Except (Error Float) Float := do (← value.toNumber).toDouble

/-- The numbers of a quantity. -/
def toParts (values : List Json) : Except (Error Float) (List Float) :=
  if values.all isPlain && values.any isText then .error .textOperand else values.mapM toPart

/-- A value as a quantity. -/
def toQuantity (value : Json) : Except (Error Float) (Table Float) := do
  let extent ← (Table.sizes value).mapError .extent
  return ⟨extent, (← toParts (Table.leaves value)).toArray⟩

/-- A value as a number that is added to another one. -/
def toSummand (value : Json) : Except (Error Float) Float := do
  (← value.toQuantity).number.mapError .extent

/-- A value as a limit that a number is compared with. -/
def toLimit (value : Json) : Except (Error Float) Float := do
  (← value.toQuantity).only.mapError .extent

end Json

end PlanarSketch
