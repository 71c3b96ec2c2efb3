import PlanarSketch.Scalar
import PlanarSketch.Text.Basic

/-!
# Shapes

A sketch is made of points, lines, circles and arcs. A shape is given by a fixed number of
parameters:

* a point by its two coordinates;
* a line by its start point and its end point;
* a circle by its centre and its radius;
* an arc by its centre, its radius and the two angles, in radians, at which it starts and ends.

Two things are measured on a shape. Its *anchor* is the point that distances are taken from: the
point itself, the start of a line, the centre of a circle or arc. Its *direction* is a vector of
length one along a line; a line whose ends coincide has direction zero, and what is not a line
points along the first axis.
-/

set_option autoImplicit false

namespace PlanarSketch

/-- The kinds of shapes. -/
inductive ShapeKind where
  | point
  | line
  | circle
  | arc
deriving DecidableEq, Repr, Inhabited

namespace ShapeKind

def all : List ShapeKind := [point, line, circle, arc]

def arity : ShapeKind → Nat
  | point => 2
  | line => 4
  | circle => 3
  | arc => 5

def name : ShapeKind → String
  | point => "point"
  | line => "line"
  | circle => "circle"
  | arc => "arc"

/-- The stem of the names given to unnamed entities of a kind. -/
def stem : ShapeKind → String
  | point => "Point"
  | line => "Line"
  | circle => "Circle"
  | arc => "Arc"

/-- The kind with a given name, in any case of its letters. The names are plain ASCII, and no letter
beyond ASCII has a lower case that occurs in them, so folding ASCII letters is enough. -/
def ofName? (text : Text) : Option ShapeKind :=
  all.find? fun kind => Text.ofString kind.name == text.toLower

end ShapeKind

/-- A shape with its parameters. -/
inductive Shape (α : Type) where
  | point (x y : α)
  | line (x₁ y₁ x₂ y₂ : α)
  | circle (x y radius : α)
  | arc (x y radius start stop : α)
deriving Repr, DecidableEq

namespace Shape

variable {α : Type}

def kind : Shape α → ShapeKind
  | point .. => .point
  | line .. => .line
  | circle .. => .circle
  | arc .. => .arc

def toList : Shape α → List α
  | point x y => [x, y]
  | line x₁ y₁ x₂ y₂ => [x₁, y₁, x₂, y₂]
  | circle x y radius => [x, y, radius]
  | arc x y radius start stop => [x, y, radius, start, stop]

/-- The shape of a kind with the given parameters, if their number is right. -/
def ofList? : ShapeKind → List α → Option (Shape α)
  | .point, [x, y] => some (point x y)
  | .line, [x₁, y₁, x₂, y₂] => some (line x₁ y₁ x₂ y₂)
  | .circle, [x, y, radius] => some (circle x y radius)
  | .arc, [x, y, radius, start, stop] => some (arc x y radius start stop)
  | _, _ => none

@[simp] theorem length_toList (shape : Shape α) : shape.toList.length = shape.kind.arity := by
  cases shape <;> rfl

@[simp] theorem ofList?_toList (shape : Shape α) :
    ofList? shape.kind shape.toList = some shape := by
  cases shape <;> rfl

/-- The shape of a kind whose `k`-th parameter is `read k`. -/
def ofReader (read : Nat → α) : ShapeKind → Shape α
  | .point => point (read 0) (read 1)
  | .line => line (read 0) (read 1) (read 2) (read 3)
  | .circle => circle (read 0) (read 1) (read 2)
  | .arc => arc (read 0) (read 1) (read 2) (read 3) (read 4)

/-- Reading parameters does not change the kind. -/
@[simp] theorem kind_ofReader (read : Nat → α) (kind : ShapeKind) :
    (ofReader read kind).kind = kind := by
  cases kind <;> rfl

/-- Replaces one parameter; nothing happens when there is no such parameter. -/
def set (shape : Shape α) (index : Nat) (value : α) : Shape α :=
  (ofList? shape.kind (shape.toList.set index value)).getD shape

/-- The point distances are taken from. -/
def anchor : Shape α → α × α
  | point x y => (x, y)
  | line x y _ _ => (x, y)
  | circle x y _ => (x, y)
  | arc x y _ _ _ => (x, y)

variable [Scalar α]

/-- The direction of a vector: length one, or zero for the zero vector. -/
def unit (dx dy : α) : α × α :=
  let length := Scalar.hypot dx dy
  if Scalar.isZero length then (Scalar.zero, Scalar.zero) else (dx / length, dy / length)

/-- The direction of a shape. -/
def direction : Shape α → α × α
  | line x₁ y₁ x₂ y₂ => unit (x₂ - x₁) (y₂ - y₁)
  | _ => (Scalar.one, Scalar.zero)

end Shape

end PlanarSketch
