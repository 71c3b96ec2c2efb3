import PlanarSketch.Error
import PlanarSketch.Ledger

/-!
# Constraints

A constraint is a named relation between entities, referred to by name, with a target where the
relation has one. Its tolerance says when it counts as satisfied; its priority is carried along and
has no influence on a solve; whether it was satisfied is noted by the last solve.
-/

set_option autoImplicit false

namespace PlanarSketch

variable {α : Type}

/-- A named relation between entities. -/
structure Constraint (α : Type) where
  name : Text
  relation : Relation Text
  /-- The target, in degrees for an angle. -/
  value : Option α
  tolerance : α
  priority : Json
  satisfied : Json

instance : Named (Constraint α) := ⟨Constraint.name⟩

namespace Constraint

def kind (constraint : Constraint α) : RelationKind := constraint.relation.kind

def refersTo (constraint : Constraint α) (entity : Text) : Bool :=
  constraint.relation.refs.contains entity

/-- The target in the unit of the residual: radians for an angle, and zero when there is none. -/
def target [Scalar α] (constraint : Constraint α) : α :=
  let value := constraint.value.getD Scalar.zero
  match constraint.kind with
  | .angle => Scalar.radians value
  | _ => value

end Constraint

end PlanarSketch
