import PlanarSketch.Layout

/-!
# Derivatives by formula

For every relation but the angle there is a formula for the partial derivatives of the residual, as
long as the residual has one at the values in question: not at coinciding anchors, not for a line
whose ends coincide, and not for directions that are exactly parallel. A formula answers pairs of a
slot of the flat view and a partial derivative; a slot that is named more than once has the sum, and
one that is not named has zero.

A formula can be replaced, or added, for each kind of relation (`Formulas.register`), and several at
once (`Formulas.updated`).
-/

set_option autoImplicit false

namespace PlanarSketch

variable {α : Type}

/-- Partial derivatives by slot. -/
abbrev Partials (α : Type) := List (Nat × α)

/-- A formula for the partial derivatives of a bound constraint's residual; it may have none at the
given values. -/
abbrev Formula (α : Type) := Array α → Bound α → Option (Partials α)

/-- The formulas in use, by kind of relation. -/
abbrev Formulas (α : Type) := RelationKind → Option (Formula α)

/-- How a direction changes with a parameter of its line. -/
structure DirectionPartial (α : Type) where
  slot : Nat
  dx : α
  dy : α

/-- A direction with its partial derivatives. -/
structure DirectionJet (α : Type) where
  direction : α × α
  partials : List (DirectionPartial α)

namespace Operand

variable [Scalar α]

/-- The direction of an operand with its partial derivatives: none for a line whose ends coincide,
and a constant direction for what is not a line. -/
def directionJet (values : Array α) (operand : Operand) : Option (DirectionJet α) :=
  match operand.shape values with
  | .line x₁ y₁ x₂ y₂ =>
    let dx := x₂ - x₁
    let dy := y₂ - y₁
    let length := Scalar.hypot dx dy
    if Scalar.isZero length then none
    else
      let ux := dx / length
      let uy := dy / length
      let xx := uy * uy / length
      let xy := -ux * uy / length
      let yy := ux * ux / length
      some {
        direction := (ux, uy)
        partials := [
          ⟨operand.offset, -xx, -xy⟩,
          ⟨operand.offset + 1, -xy, -yy⟩,
          ⟨operand.offset + 2, xx, xy⟩,
          ⟨operand.offset + 3, xy, yy⟩] }
  | _ => some { direction := (Scalar.one, Scalar.zero), partials := [] }

/-- The partial derivatives of the distance of two anchors; none when they coincide. -/
def separationPartials (values : Array α) (a b : Operand) : Option (Partials α) :=
  let p := (a.shape values).anchor
  let q := (b.shape values).anchor
  let dx := p.1 - q.1
  let dy := p.2 - q.2
  let distance := Scalar.hypot dx dy
  if Scalar.isZero distance then none
  else
    let gx := dx / distance
    let gy := dy / distance
    some [(a.offset, gx), (a.offset + 1, gy), (b.offset, -gx), (b.offset + 1, -gy)]

/-- The partial derivatives of the scalar product of two directions. -/
def dotPartials (values : Array α) (a b : Operand) : Option (Partials α) := do
  let u ← a.directionJet values
  let v ← b.directionJet values
  return u.partials.map (fun p => (p.slot, p.dx * v.direction.1 + p.dy * v.direction.2)) ++
    v.partials.map (fun p => (p.slot, u.direction.1 * p.dx + u.direction.2 * p.dy))

/-- The partial derivatives of the absolute cross product of two directions; none where it is
zero. -/
def crossPartials (values : Array α) (a b : Operand) : Option (Partials α) := do
  let u ← a.directionJet values
  let v ← b.directionJet values
  let cross := Relation.cross u.direction v.direction
  if Scalar.isZero cross then none
  else
    let sign := if Scalar.lt Scalar.zero cross then Scalar.one else -Scalar.one
    return u.partials.map
        (fun p => (p.slot, sign * (p.dx * v.direction.2 - p.dy * v.direction.1))) ++
      v.partials.map (fun p => (p.slot, sign * (u.direction.1 * p.dy - u.direction.2 * p.dx)))

end Operand

namespace Formulas

variable [Scalar α]

/-- The partial derivatives of a relation's residual; an angle has no formula. -/
def partials (values : Array α) : Relation Operand → Option (Partials α)
  | .distance a b => a.separationPartials values b
  | .coincident a b => a.separationPartials values b
  | .horizontal a => do return (← a.directionJet values).partials.map fun p => (p.slot, p.dy)
  | .vertical a => do return (← a.directionJet values).partials.map fun p => (p.slot, p.dx)
  | .perpendicular a b => a.dotPartials values b
  | .parallel a b => a.crossPartials values b
  | .angle _ _ => none

/-- The formulas known from the start: one for every kind but the angle. -/
def standard : Formulas α
  | .angle => none
  | _ => some fun values bound => partials values bound.relation

/-- Uses a formula for a kind of relation from now on. -/
def register {α : Type} (formulas : Formulas α) (kind : RelationKind) (formula : Formula α) :
    Formulas α :=
  fun other => if other = kind then some formula else formulas other

/-- Uses given formulas from now on, each for its kind of relation, one after the other. -/
def updated {α : Type} (formulas : Formulas α)
    (own : List (RelationKind × Formula α)) : Formulas α :=
  own.foldl (fun formulas one => formulas.register one.1 one.2) formulas

end Formulas

end PlanarSketch
