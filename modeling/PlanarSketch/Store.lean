import PlanarSketch.Constraint
import PlanarSketch.Entity

/-!
# Stores

A store holds the entities and the constraints of a sketch, each under its name and in the order in
which the names first appeared. A constraint is let in only when everything it refers to is there,
and taking out an entity takes out the constraints that refer to it, so no constraint ever refers to
nothing.

An operation that fails leaves the store as it was.
-/

set_option autoImplicit false

namespace PlanarSketch

/-- The entities and constraints of a sketch. -/
structure Store (α : Type) where
  entities : List (Entity α) := []
  constraints : List (Constraint α) := []

namespace Store

variable {α : Type}

def entity? (store : Store α) (name : Text) : Option (Entity α) := Ledger.find? name store.entities

def constraint? (store : Store α) (name : Text) : Option (Constraint α) :=
  Ledger.find? name store.constraints

def hasEntity (store : Store α) (name : Text) : Bool := Ledger.contains name store.entities

def hasConstraint (store : Store α) (name : Text) : Bool := Ledger.contains name store.constraints

/-- The constraints that refer to an entity, in order. -/
def constraintsOn (store : Store α) (name : Text) : List (Constraint α) :=
  store.constraints.filter fun constraint => constraint.refersTo name

def parameters (store : Store α) : List α := store.entities.flatMap Entity.parameters

/-- Files an entity. An entity of the same name is replaced, and the constraints on it stay. -/
def addEntity (store : Store α) (entity : Entity α) : Store α :=
  { store with entities := Ledger.file entity store.entities }

/-- Takes out an entity with all constraints on it. -/
def removeEntity (store : Store α) (name : Text) : Store α :=
  { entities := Ledger.erase name store.entities
    constraints := store.constraints.filter fun constraint => !constraint.refersTo name }

def removeConstraint (store : Store α) (name : Text) : Store α :=
  { store with constraints := Ledger.erase name store.constraints }

/-- Files a constraint. Everything it refers to must be there; the first that is not is reported. -/
def addConstraint (store : Store α) (constraint : Constraint α) : Except (Error α) (Store α) :=
  match constraint.relation.refs.find? fun entity => !store.hasEntity entity with
  | some missing => .error (.entityMissing missing (some constraint.name))
  | none => .ok { store with constraints := Ledger.file constraint store.constraints }

/-- Gives an entity a new shape of its kind. A fixed entity is left alone, and the answer says
so. -/
def reshape (store : Store α) (name : Text)
    (shape : ShapeKind → Except (Error α) (Shape α)) : Except (Error α) (Bool × Store α) :=
  match store.entity? name with
  | none => .error (.entityMissing name none)
  | some entity =>
    if entity.fixed then .ok (false, store)
    else do
      let shape ← shape entity.kind
      return (true,
        { store with
          entities := Ledger.modify name (fun entity => { entity with shape }) store.entities })

end Store

end PlanarSketch
