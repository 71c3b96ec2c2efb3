import PlanarSketch.Error
import PlanarSketch.Ledger

/-!
# Entities

An entity is a named shape. A fixed entity keeps its parameters: it is measured like any other, but
a solve never moves it.
-/

set_option autoImplicit false

namespace PlanarSketch

variable {α : Type}

/-- A named shape of a sketch. -/
structure Entity (α : Type) where
  name : Text
  shape : Shape α
  fixed : Bool
deriving Repr

instance : Named (Entity α) := ⟨Entity.name⟩

namespace Entity

def kind (entity : Entity α) : ShapeKind := entity.shape.kind

def parameters (entity : Entity α) : List α := entity.shape.toList

def arity (entity : Entity α) : Nat := entity.kind.arity

def isLine (entity : Entity α) : Bool := entity.kind = .line

end Entity

/-- The shape of a kind with the given parameters: their number must be the kind's, and all must be
finite. -/
def Shape.check [Scalar α] (kind : ShapeKind) (parameters : List α) :
    Except (Error α) (Shape α) :=
  match Shape.ofList? kind parameters with
  | none => .error (.parameterCount kind parameters.length)
  | some shape =>
    if parameters.all Scalar.isFinite then .ok shape else .error (.parameterNotFinite parameters)

end PlanarSketch
