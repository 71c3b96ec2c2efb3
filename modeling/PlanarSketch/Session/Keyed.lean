import PlanarSketch.Record.Position
import PlanarSketch.Record.Quantity
import PlanarSketch.Session

/-!
# Asking for records by any value

A record can be asked for by any value. A text is the name of a record or of none; any other plain
value is the name of none; lists and objects cannot stand for names, and asking by one of them fails
where names are looked up. So looking for what refers to a value never fails, and neither does
taking something out of an empty ledger.
-/

set_option autoImplicit false

namespace PlanarSketch

/-- The name that a value is, if it is one. -/
def Json.toName? (value : Json) : Except (Error Float) (Option Text) :=
  match value with
  | .str name => .ok (some name)
  | .arr _ | .obj _ => .error (.mismatch (.notKey value))
  | _ => .ok none

/-- The names at the front of a list of values, and what the first value that is no name fails with
when it is looked up. -/
def Json.leadingNames : List Json → List Text × Except (Error Float) Unit
  | [] => ([], .ok ())
  | .str name :: rest =>
    let (names, ending) := leadingNames rest
    (name :: names, ending)
  | value :: _ => ([], do
      let _ ← value.toName?
      .error (.nameUnknown value))

namespace Session.Keyed

/-- The entity asked for by a value. -/
def entity? (key : Json) : Action (Option (Entity Float)) := do
  match ← lift key.toName? with
  | some name => return (← store).entity? name
  | none => return none

/-- The constraint asked for by a value. -/
def constraint? (key : Json) : Action (Option (Constraint Float)) := do
  match ← lift key.toName? with
  | some name => return (← store).constraint? name
  | none => return none

def hasEntity (key : Json) : Action Bool := do return (← entity? key).isSome

/-- The entity asked for by a value that must be there. -/
def entity (key : Json) : Action (Entity Float) := do
  match ← entity? key with
  | some entity => return entity
  | none => throw .noSuchOperation

def parameters (key : Json) : Action (List Float) := do
  match ← entity? key with
  | some entity => return entity.parameters
  | none => throw (.nameUnknown key)

/-- The names of the constraints that refer to an entity. -/
def constraintsOn (key : Json) : Action (List Text) := do
  match key with
  | .str name => return ((← store).constraintsOn name).map Constraint.name
  | _ => return []

/-- Gives an entity new parameters; answers whether it took them. -/
def updateEntity (key parameters : Json) : Action Bool := do
  match ← lift key.toName? with
  | some name => Session.updateEntity name parameters
  | none => throw (.entityMissing key.plain none)

/-- Overwrites one parameter of an entity without any check. -/
def overwrite (key index value : Json) : Action Unit := do
  let x ← lift value.toDouble
  let entity ← entity key
  Session.overwrite entity.name (← lift (Position.ofJson entity.arity .parameter index)) x

/-- Takes out an entity with the constraints on it; answers whether it was there. -/
def removeEntity (key : Json) : Action Bool := do
  if (← store).entities.isEmpty then return false
  else
    match ← lift key.toName? with
    | some name => Session.removeEntity name
    | none => return false

def removeConstraint (key : Json) : Action Bool := do
  if (← store).constraints.isEmpty then return false
  else
    match ← lift key.toName? with
    | some name => Session.removeConstraint name
    | none => return false

/-- Takes out the entity with a name, or else the constraint with that name. -/
def remove (key : Json) : Action Bool := do
  match ← lift key.toName? with
  | some name => Session.remove name
  | none => return false

/-- Moves the unknowns by a part of a step and writes entities back: those asked for by the items of
`keys`, or all that are not fixed when that is null. Writing ends at the first item that is no
name. -/
def nudge (delta : Table Float) (damping : Json) (undo : Bool) (keys : Json) :
    Action (Array Float) :=
  do
  let step ← lift (do
    (Table.combine (fun part whole => part * whole) (← damping.toQuantity) delta).mapError .extent)
  match keys with
  | .null => Session.nudge step undo none
  | keys =>
    let (names, ending) := match keys.items with
      | .ok items => Json.leadingNames items
      | .error error => ([], .error error)
    let values ← Session.nudge step undo (some names)
    lift ending
    return values

end Session.Keyed

end PlanarSketch
