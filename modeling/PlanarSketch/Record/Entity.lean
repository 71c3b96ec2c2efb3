import PlanarSketch.Entity
import PlanarSketch.Json.Convert

/-!
# Entity records

An entity is written as a record of its name, its kind, its parameters and whether it is fixed.
Building an entity checks, in this order, the name, the kind, the number of parameters, each
parameter as a number, and that all are finite.

A figure is a shape as it is drawn: its points are values of their own, and are taken apart for the
parameters.
-/

set_option autoImplicit false

namespace PlanarSketch

namespace Shape

/-- The shape of a kind with parameters given as values. -/
def ofItems (kind : ShapeKind) (items : List Json) : Except (Error Float) (Shape Float) :=
  if items.length ≠ kind.arity then .error (.parameterCount kind items.length)
  else do Shape.check kind (← items.mapM Json.toDouble)

/-- The shape of a kind with parameters given by one value. -/
def ofValue (parameters : Json) (kind : ShapeKind) : Except (Error Float) (Shape Float) := do
  ofItems kind (← parameters.items)

end Shape

/-- A shape by its points, sizes and angles, which may be any values. -/
inductive Figure where
  | point (x y : Json)
  | line (start stop : Json)
  | circle (center radius : Json)
  | arc (center radius startAngle endAngle : Json)

namespace Figure

def kind : Figure → ShapeKind
  | point _ _ => .point
  | line _ _ => .line
  | circle _ _ => .circle
  | arc _ _ _ _ => .arc

/-- The parameters of a figure, with its points taken apart. How many coordinates a point has is not
looked at. -/
def items : Figure → Except (Error Float) (List Json)
  | point x y => .ok [x, y]
  | line start stop => do return (← start.items) ++ (← stop.items)
  | circle center radius => do return (← center.items) ++ [radius]
  | arc center radius startAngle endAngle => do
    return (← center.items) ++ [radius, startAngle, endAngle]

end Figure

namespace Entity

/-- Builds an entity from values. The parameters may already have failed to be a list; that counts
only after the name and the kind. -/
def ofParts (name kind : Json) (parameters : Except (Error Float) (List Json)) (fixed : Json) :
    Except (Error Float) (Entity Float) :=
  match name with
  | .str text =>
    if text.isEmpty then .error (.entityName name)
    else
      match ShapeKind.ofName? kind.plain with
      | none => .error (.shapeKind kind)
      | some kind => do
        let shape ← Shape.ofItems kind (← parameters)
        return { name := text, shape, fixed := fixed.truthy }
  | _ => .error (.entityName name)

def toJson (entity : Entity Float) : Json :=
  .obj [
    ("id", .str entity.name),
    ("type", .str entity.kind.name),
    ("parameters", .arr (entity.parameters.map .float)),
    ("fixed", .bool entity.fixed)]

/-- Reads the fields of a record and builds the entity. -/
def ofRecord (record : Json) : Except (Error Float) (Entity Float) := do
  let fields ← record.fields
  let name ← Json.required "id" fields
  let kind ← Json.required "type" fields
  let items ← (← Json.required "parameters" fields).items
  ofParts name kind (.ok items) (Json.optional "fixed" (.bool false) fields)

/-- The entity a record describes. A value of the wrong sort anywhere makes the record malformed. -/
def ofJson (record : Json) : Except (Error Float) (Entity Float) :=
  match ofRecord record with
  | .error (.mismatch cause) => .error (.malformed .entity record cause)
  | result => result

end Entity

end PlanarSketch
