import PlanarSketch.Shape

/-!
# Relations

A constraint states one of seven relations between one or two shapes. A relation is kept together
with what it refers to, so the number of references is right by construction; `Relation.map` changes
the references, from names to places in memory to shapes.

Each relation between shapes is measured by one number (`Relation.residual`), which is zero when the
relation holds:

* *distance*: the distance of the anchors less the target;
* *angle*: the angle between the directions less the target;
* *parallel*: the absolute cross product of the directions;
* *perpendicular*: the scalar product of the directions;
* *coincident*: the distance of the anchors;
* *horizontal* and *vertical*: the second and the first component of the direction.
-/

set_option autoImplicit false

namespace PlanarSketch

/-- The kinds of relations. -/
inductive RelationKind where
  | distance
  | angle
  | parallel
  | perpendicular
  | coincident
  | horizontal
  | vertical
deriving DecidableEq, Repr, Inhabited

namespace RelationKind

def all : List RelationKind :=
  [distance, angle, parallel, perpendicular, coincident, horizontal, vertical]

/-- The number of shapes a relation is about. -/
def arity : RelationKind → Nat
  | horizontal | vertical => 1
  | _ => 2

def name : RelationKind → String
  | distance => "distance"
  | angle => "angle"
  | parallel => "parallel"
  | perpendicular => "perpendicular"
  | coincident => "coincident"
  | horizontal => "horizontal"
  | vertical => "vertical"

/-- The stem of the names given to unnamed constraints of a kind. -/
def stem : RelationKind → String
  | distance => "Distance"
  | angle => "Angle"
  | parallel => "Parallel"
  | perpendicular => "Perpendicular"
  | coincident => "Coincident"
  | horizontal => "Horizontal"
  | vertical => "Vertical"

/-- The kind with a given name, in any case of its letters. As for shapes, folding ASCII letters is
enough. -/
def ofName? (text : Text) : Option RelationKind :=
  all.find? fun kind => Text.ofString kind.name == text.toLower

/-- Distances and angles have a target that must be given. -/
def needsValue : RelationKind → Bool
  | distance | angle => true
  | _ => false

/-- Whether the relation is about directions rather than anchors. -/
def isDirectional : RelationKind → Bool
  | distance | coincident => false
  | _ => true

end RelationKind

/-- A relation with its references. -/
inductive Relation (ρ : Type) where
  | distance (a b : ρ)
  | angle (a b : ρ)
  | parallel (a b : ρ)
  | perpendicular (a b : ρ)
  | coincident (a b : ρ)
  | horizontal (a : ρ)
  | vertical (a : ρ)
deriving Repr, DecidableEq

namespace Relation

variable {ρ σ : Type}

def kind : Relation ρ → RelationKind
  | distance .. => .distance
  | angle .. => .angle
  | parallel .. => .parallel
  | perpendicular .. => .perpendicular
  | coincident .. => .coincident
  | horizontal .. => .horizontal
  | vertical .. => .vertical

def refs : Relation ρ → List ρ
  | distance a b | angle a b | parallel a b | perpendicular a b | coincident a b => [a, b]
  | horizontal a | vertical a => [a]

/-- The relation of a kind with the given references, if their number is right. -/
def ofRefs? : RelationKind → List ρ → Option (Relation ρ)
  | .distance, [a, b] => some (distance a b)
  | .angle, [a, b] => some (angle a b)
  | .parallel, [a, b] => some (parallel a b)
  | .perpendicular, [a, b] => some (perpendicular a b)
  | .coincident, [a, b] => some (coincident a b)
  | .horizontal, [a] => some (horizontal a)
  | .vertical, [a] => some (vertical a)
  | _, _ => none

/-- A relation has as many references as its kind says. -/
@[simp] theorem length_refs (relation : Relation ρ) :
    relation.refs.length = relation.kind.arity := by
  cases relation <;> rfl

/-- A relation is rebuilt from its kind and references. -/
@[simp] theorem ofRefs?_refs (relation : Relation ρ) :
    ofRefs? relation.kind relation.refs = some relation := by
  cases relation <;> rfl

def map (f : ρ → σ) : Relation ρ → Relation σ
  | distance a b => distance (f a) (f b)
  | angle a b => angle (f a) (f b)
  | parallel a b => parallel (f a) (f b)
  | perpendicular a b => perpendicular (f a) (f b)
  | coincident a b => coincident (f a) (f b)
  | horizontal a => horizontal (f a)
  | vertical a => vertical (f a)

/-- Changing references twice is changing them once. -/
@[simp] theorem map_map {τ : Type} (f : ρ → σ) (g : σ → τ) (relation : Relation ρ) :
    (relation.map f).map g = relation.map fun a => g (f a) := by
  cases relation <;> rfl

/-- The kind does not depend on the references. -/
@[simp] theorem kind_map (f : ρ → σ) (relation : Relation ρ) :
    (relation.map f).kind = relation.kind := by
  cases relation <;> rfl

/-- References are changed in place. -/
@[simp] theorem refs_map (f : ρ → σ) (relation : Relation ρ) :
    (relation.map f).refs = relation.refs.map f := by
  cases relation <;> rfl

/-- Resolves the references, the first one first; the first that fails decides. -/
def resolve {ε : Type} (f : ρ → Except ε σ) : Relation ρ → Except ε (Relation σ)
  | distance a b => do return distance (← f a) (← f b)
  | angle a b => do return angle (← f a) (← f b)
  | parallel a b => do return parallel (← f a) (← f b)
  | perpendicular a b => do return perpendicular (← f a) (← f b)
  | coincident a b => do return coincident (← f a) (← f b)
  | horizontal a => do return horizontal (← f a)
  | vertical a => do return vertical (← f a)

variable {α : Type} [Scalar α]

/-- The cross product of two vectors. -/
def cross (a b : α × α) : α := a.1 * b.2 - a.2 * b.1

/-- The scalar product of two vectors. -/
def dot (a b : α × α) : α := a.1 * b.1 + a.2 * b.2

def rightAngle : α := Scalar.pi / Scalar.two

/-- The angle in `[0, π]` whose cosine is the given number, or the nearest one that is a cosine. -/
def angleOfCosine (cosine : α) : α :=
  Scalar.arccos (Scalar.atLeast (-Scalar.one) (Scalar.atMost Scalar.one cosine))

/-- The angle in `[0, π]` between two vectors; a right angle when one of them is zero. -/
def angleBetween (a b : α × α) : α :=
  let lengths := Scalar.hypot a.1 a.2 * Scalar.hypot b.1 b.2
  if Scalar.isZero lengths then rightAngle else angleOfCosine (dot a b / lengths)

def separation (a b : α × α) : α := Scalar.hypot (a.1 - b.1) (a.2 - b.2)

/-- How far a relation between shapes is from holding. The target counts for distances and angles
only. -/
def residual (target : α) : Relation (Shape α) → α
  | distance a b => separation a.anchor b.anchor - target
  | angle a b => angleBetween a.direction b.direction - target
  | parallel a b => Scalar.abs (cross a.direction b.direction)
  | perpendicular a b => dot a.direction b.direction
  | coincident a b => separation a.anchor b.anchor
  | horizontal a => a.direction.2
  | vertical a => a.direction.1

end Relation

end PlanarSketch
