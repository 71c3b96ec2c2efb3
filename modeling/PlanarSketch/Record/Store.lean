import PlanarSketch.Json.Writer
import PlanarSketch.Record.Constraint
import PlanarSketch.Record.Entity
import PlanarSketch.Store

/-!
# Store documents

A store is written as an object with the list of its entity records and the list of its constraint
records. It is read by filing the entities first and then the constraints, so a constraint may refer
to any entity of the document, and of two records with one name the later counts, in the place of
the earlier.
-/

set_option autoImplicit false

namespace PlanarSketch

namespace Store

def toFields (store : Store Float) : List (Text × Json) := [
  ("entities", .arr (store.entities.map Entity.toJson)),
  ("constraints", .arr (store.constraints.map Constraint.toJson))]

def toJson (store : Store Float) : Json := .obj store.toFields

/-- The document of a store as text, one item per line. -/
def toText (store : Store Float) : String := store.toJson.pretty

def summary {α : Type} (store : Store α) : String :=
  s!"SketchStore(entities={store.entities.length}, constraints={store.constraints.length})"

/-- Files the entity a record describes. -/
def readEntity (store : Store Float) (record : Json) : Except (Error Float) (Store Float) := do
  return store.addEntity (← Entity.ofJson record)

/-- Files the constraint a record describes. -/
def readConstraint (store : Store Float) (record : Json) : Except (Error Float) (Store Float) := do
  store.addConstraint (← Constraint.ofJson record)

/-- The store a document describes. -/
def ofJson : Json → Except (Error Float) (Store Float)
  | .obj fields => do
    let entities ← (Json.optional "entities" (.arr []) fields).items
    let store ← entities.foldlM readEntity {}
    let constraints ← (Json.optional "constraints" (.arr []) fields).items
    constraints.foldlM readConstraint store
  | value => .error (.notMapping value)

/-- The store a text describes. -/
def ofText (text : Text) : Except (Error Float) (Store Float) :=
  match Json.parse text with
  | .ok value => ofJson value
  | .error fault => .error (.notJson fault)

end Store

end PlanarSketch
