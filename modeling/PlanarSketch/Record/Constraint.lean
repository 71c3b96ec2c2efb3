import PlanarSketch.Constraint
import PlanarSketch.Json.Convert

/-!
# Constraint records

A constraint is written as a record of its name, its kind, the names it refers to, its tolerance,
its priority and, where there is one, its target. Whether it was satisfied is not written. Building
a constraint checks, in this order, the name, the kind, the number of references, the target and the
tolerance.
-/

set_option autoImplicit false

namespace PlanarSketch

namespace Constraint

/-- The tolerance of a constraint that names none. -/
def defaultTolerance : Json := .float 1e-6

/-- The values a constraint is built from. The references may already have failed to be a list. -/
structure Parts where
  name : Json
  kind : Json
  references : Except (Error Float) (List Json) := .ok []
  value : Json := .null
  tolerance : Json := defaultTolerance
  priority : Json := .int 0
  satisfied : Json := .bool false

/-- The target of a constraint: required for distances and angles, and finite when given. -/
def checkValue (name : Text) (kind : RelationKind) : Json → Except (Error Float) (Option Float)
  | .null => if kind.needsValue then .error (.valueMissing name kind) else .ok none
  | value => do
    let x ← value.toDouble
    if x.isFinite then return some x else .error (.valueNotFinite name)

/-- The tolerance of a constraint, which must be positive. -/
def checkTolerance (name : Text) (value : Json) : Except (Error Float) Float := do
  let x ← value.toDouble
  if (0.0 : Float) < x then return x else .error (.toleranceNotPositive name x)

/-- Builds a constraint from values. -/
def ofParts (parts : Parts) : Except (Error Float) (Constraint Float) :=
  match parts.name with
  | .str name =>
    if name.isEmpty then .error (.constraintName parts.name)
    else
      match RelationKind.ofName? parts.kind.plain with
      | none => .error (.relationKind parts.kind)
      | some kind => do
        let references := (← parts.references).map Json.plain
        match Relation.ofRefs? kind references with
        | none => .error (.referenceCount name kind references.length)
        | some relation =>
          let value ← checkValue name kind parts.value
          let tolerance ← checkTolerance name parts.tolerance
          return { name, relation, value, tolerance
                   priority := parts.priority, satisfied := parts.satisfied }
  | _ => .error (.constraintName parts.name)

def toJson (constraint : Constraint Float) : Json :=
  let target : List (Text × Json) := match constraint.value with
    | some x => [("value", .float x)]
    | none => []
  let fields : List (Text × Json) := [
    ("id", .str constraint.name),
    ("type", .str constraint.kind.name),
    ("entityIds", .arr (constraint.relation.refs.map .str)),
    ("tolerance", .float constraint.tolerance),
    ("priority", constraint.priority)]
  .obj (fields ++ target)

/-- Reads the fields of a record and builds the constraint. -/
def ofRecord (record : Json) : Except (Error Float) (Constraint Float) := do
  let fields ← record.fields
  let name ← Json.required "id" fields
  let kind ← Json.required "type" fields
  let references ← (← Json.required "entityIds" fields).items
  ofParts {
    name, kind
    references := .ok references
    value := Json.optional "value" .null fields
    tolerance := Json.optional "tolerance" defaultTolerance fields
    priority := Json.optional "priority" (.int 0) fields }

/-- The constraint a record describes. A value of the wrong sort anywhere makes the record
malformed. -/
def ofJson (record : Json) : Except (Error Float) (Constraint Float) :=
  match ofRecord record with
  | .error (.mismatch cause) => .error (.malformed .constraint record cause)
  | result => result

end Constraint

end PlanarSketch
