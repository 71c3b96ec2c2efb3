import PlanarSketch.Store

/-!
# The flat view of a store

A solve works on one array of numbers: the parameters of all entities, one block after the other in
the order of the store (`Layout.blocks`). The slots of entities that are not fixed are the unknowns;
their order is the order of columns (`Layout.freeSlots`), and `Layout.columnOf` goes back from a
slot to its column. Each constraint is bound to the blocks of the entities it refers to (`Bound`),
so measuring it needs no names, and it knows the columns it can depend on.

Only slots of entities that are not fixed are ever changed (`Layout.advance`).
-/

set_option autoImplicit false

namespace PlanarSketch

variable {α : Type}

/-- The place of an entity's parameters in the flat view. -/
structure Block where
  name : Text
  kind : ShapeKind
  offset : Nat
  fixed : Bool
deriving Repr, DecidableEq

instance : Named Block := ⟨Block.name⟩

def Block.slots (block : Block) : List Nat := List.range' block.offset block.kind.arity

/-- Blocks for a list of entities, the first at `offset`. -/
def Block.ofEntities : Nat → List (Entity α) → List Block
  | _, [] => []
  | offset, entity :: rest =>
    { name := entity.name, kind := entity.kind, offset, fixed := entity.fixed } ::
      Block.ofEntities (offset + entity.arity) rest

/-- A shape in the flat view: its kind and its first slot. -/
structure Operand where
  kind : ShapeKind
  offset : Nat
deriving Repr, DecidableEq

namespace Operand

def ofBlock (block : Block) : Operand := ⟨block.kind, block.offset⟩

def slots (operand : Operand) : List Nat := List.range' operand.offset operand.kind.arity

def shape [Scalar α] (values : Array α) (operand : Operand) : Shape α :=
  Shape.ofReader (fun k => values.getD (operand.offset + k) Scalar.zero) operand.kind

def parameters [Scalar α] (values : Array α) (operand : Operand) : List α :=
  (operand.shape values).toList

end Operand

/-- A constraint bound to the flat view. -/
structure Bound (α : Type) where
  name : Text
  relation : Relation Operand
  /-- The target in the unit of the residual. -/
  target : α
  tolerance : α
  /-- The columns of the unknowns among the slots of the operands, each once. -/
  columns : List Nat

namespace Bound

def kind (bound : Bound α) : RelationKind := bound.relation.kind

/-- How far the constraint is from holding at given values. -/
def residual [Scalar α] (values : Array α) (bound : Bound α) : α :=
  (bound.relation.map (Operand.shape values)).residual bound.target

end Bound

/-- The flat view of a store, apart from the values. -/
structure Layout (α : Type) where
  blocks : List Block
  freeSlots : Array Nat
  bound : Array (Bound α)

namespace Layout

/-- The slots of the blocks that are not fixed, in order. -/
def freeSlotsOf (blocks : List Block) : Array Nat :=
  ((blocks.filter fun block => !block.fixed).flatMap Block.slots).toArray

/-- The first occurrence of each element. -/
def distinct : List Nat → List Nat
  | [] => []
  | first :: rest => first :: (distinct rest).filter (· ≠ first)

/-- Binds a constraint to blocks. The first name it refers to that has no block is reported. -/
def bind [Scalar α] (blocks : List Block) (constraint : Constraint α) :
    Except (Error α) (Bound α) := do
  let relation ← constraint.relation.resolve fun name =>
    match Ledger.find? name blocks with
    | some block => .ok (Operand.ofBlock block)
    | none => .error (.nameUnknown (.str name))
  let free := freeSlotsOf blocks
  return {
    name := constraint.name
    relation
    target := constraint.target
    tolerance := constraint.tolerance
    columns := distinct ((relation.refs.flatMap Operand.slots).filterMap free.idxOf?) }

/-- The flat view of a store. -/
def ofStore [Scalar α] (store : Store α) : Except (Error α) (Layout α) := do
  let blocks := Block.ofEntities 0 store.entities
  let bound ← store.constraints.mapM (bind blocks)
  return { blocks, freeSlots := freeSlotsOf blocks, bound := bound.toArray }

def unknowns (layout : Layout α) : Nat := layout.freeSlots.size

/-- The number of equations: one for each constraint. -/
def equations (layout : Layout α) : Nat := layout.bound.size

def size (layout : Layout α) : Nat :=
  layout.blocks.foldr (fun block total => block.kind.arity + total) 0

/-- The column of a slot, if the slot is an unknown. -/
def columnOf (layout : Layout α) (slot : Nat) : Option (Fin layout.unknowns) :=
  layout.freeSlots.finIdxOf? slot

def freeNames (layout : Layout α) : List Text :=
  (layout.blocks.filter fun block => !block.fixed).map Block.name

/-- The parameters of a named entity at given values. -/
def parametersOf? [Scalar α] (layout : Layout α) (values : Array α) (name : Text) :
    Option (List α) :=
  (Ledger.find? name layout.blocks).map fun block => (Operand.ofBlock block).parameters values

/-- The residuals of all constraints in order. -/
def residuals [Scalar α] (layout : Layout α) (values : Array α) : Vector α layout.equations :=
  ⟨layout.bound.map (Bound.residual values), by simp [equations]⟩

/-- The Euclidean length of the residuals. -/
def residualNorm [Scalar α] {m : Nat} (residuals : Vector α m) : α := Scalar.norm residuals.toList

/-- Moves every unknown by `damping` times its part of a correction. -/
def advance [Scalar α] (layout : Layout α) (damping : α) (delta : Vector α layout.unknowns)
    (values : Array α) : Array α :=
  values.mapIdx fun slot value =>
    match layout.columnOf slot with
    | some column => value + damping * delta.get column
    | none => value

/-- Gives the named entities of a store the parameters they have at given values, one after the
other. The first failure ends it, with the entities before it written. -/
def writeBack [Scalar α] (layout : Layout α) (values : Array α) :
    List Text → Store α → Except (Error α) Unit × Store α
  | [], store => (.ok (), store)
  | name :: rest, store =>
    match layout.parametersOf? values name with
    | none => (.error (.nameUnknown (.str name)), store)
    | some parameters =>
      match store.reshape name fun kind => Shape.check kind parameters with
      | .error error => (.error error, store)
      | .ok (_, store) => writeBack layout values rest store

end Layout

namespace Store

/-- How far a constraint is from holding in a store; the constraint need not be in it. -/
def evaluate [Scalar α] (store : Store α) (constraint : Constraint α) : Except (Error α) α := do
  let bound ← Layout.bind (Block.ofEntities 0 store.entities) constraint
  return bound.residual store.parameters.toArray

end Store

end PlanarSketch
