import PlanarSketch.Linear.Dense
import PlanarSketch.Partials
import PlanarSketch.Settings

/-!
# The matrix of derivatives

One row for each constraint, one column for each unknown. A row is filled from a formula where the
mode asks for one and it has an answer; otherwise by difference quotients, and only in the columns
the constraint can depend on. All other entries are zero.

There is one array of values, and difference quotients are taken in it: a slot is overwritten, the
constraint is measured, and the slot gets back what it held (`Jacobian.fill`). What comes of that
can be said row by row, each row from the values that the filling starts with (`Jacobian.build`).
-/

set_option autoImplicit false

namespace PlanarSketch

/-- A matrix of derivatives and how its rows came about. -/
structure Jacobian (m n : Nat) (α : Type) where
  matrix : Dense m n α
  /-- Rows whose formula had no derivative, so that difference quotients took its place. -/
  fallbackRows : Nat
  /-- The first row filled by difference quotients. -/
  firstDifference : Option Nat

namespace Jacobian

variable {α : Type} [Scalar α]

/-- The values with one slot moved. -/
def shift (values : Array α) (slot : Nat) (change : α → α) : Array α := values.modify slot change

/-- The difference quotient of one step forward; `here` is the residual at the values themselves. -/
def forwardQuotient (epsilon : α) (values : Array α) (bound : Bound α) (here : α)
    (slot : Nat) : α :=
  (bound.residual (shift values slot (· + epsilon)) - here) / epsilon

/-- The difference quotient of one step either way. -/
def centralQuotient (epsilon : α) (values : Array α) (bound : Bound α) (slot : Nat) : α :=
  (bound.residual (shift values slot (· + epsilon)) -
    bound.residual (shift values slot (· - epsilon))) / (Scalar.two * epsilon)

/-- A row of difference quotients: one for each column the constraint can depend on. -/
def differenceRow (layout : Layout α) (mode : DerivativeMode) (epsilon : α) (values : Array α)
    (bound : Bound α) (here : α) : Vector α layout.unknowns :=
  Vector.ofFn fun column =>
    if column.val ∈ bound.columns then
      let slot := layout.freeSlots.getD column 0
      match mode with
      | .central => centralQuotient epsilon values bound slot
      | _ => forwardQuotient epsilon values bound here slot
    else Scalar.zero

/-- A row of partial derivatives, added up by column; those of fixed slots have no column. The slots
are those of the flat view, as a formula has to answer them. Any other has no column here and is
passed over; formulas that are given as values are checked for such slots when they are read
(`GivenFormula.slot`), and fail there. -/
def partialsRow (layout : Layout α) (partials : Partials α) : Vector α layout.unknowns :=
  partials.foldl
    (fun row partialAt =>
      match layout.columnOf partialAt.1 with
      | some column => row.set column.val (row.get column + partialAt.2) column.isLt
      | none => row)
    (Vector.replicate layout.unknowns Scalar.zero)

/-- How a row of the matrix is filled. -/
inductive Source (α : Type) where
  /-- The constraint depends on no unknown. -/
  | blank
  /-- By formula. -/
  | formula (partials : Partials α)
  /-- By difference quotients; `fallback` when a formula had no derivative. -/
  | differences (fallback : Bool)

def Source.isFallback : Source α → Bool
  | .differences fallback => fallback
  | _ => false

def Source.isDifferences : Source α → Bool
  | .differences _ => true
  | _ => false

/-- How the row of a constraint is filled at given values. -/
def source (mode : DerivativeMode) (formulas : Formulas α) (values : Array α) (bound : Bound α) :
    Source α :=
  if bound.columns.isEmpty then .blank
  else
    match mode with
    | .analytic =>
      match formulas bound.kind with
      | none => .differences false
      | some formula =>
        match formula values bound with
        | some partials => .formula partials
        | none => .differences true
    | _ => .differences false

def row (layout : Layout α) (mode : DerivativeMode) (epsilon : α) (values : Array α)
    (bound : Bound α) (here : α) : Source α → Vector α layout.unknowns
  | .blank => Vector.replicate layout.unknowns Scalar.zero
  | .formula partials => partialsRow layout partials
  | .differences _ => differenceRow layout mode epsilon values bound here

/-- The residual of a constraint at given values: as handed over, or else measured. -/
def residualAt (layout : Layout α) (values : Array α)
    (residuals : Option (Vector α layout.equations)) (i : Fin layout.bound.size) : α :=
  match residuals with
  | some residuals => residuals.get i
  | none => layout.bound[i].residual values

/-- The matrix of derivatives, row by row from given values. The residuals at the same values may be
handed over; otherwise each is computed where it is needed. -/
def build (layout : Layout α) (mode : DerivativeMode) (epsilon : α) (formulas : Formulas α)
    (values : Array α) (residuals : Option (Vector α layout.equations)) :
    Jacobian layout.equations layout.unknowns α :=
  let sources := layout.bound.toList.map (source mode formulas values)
  { matrix := Vector.ofFn fun (i : Fin layout.bound.size) =>
      let bound := layout.bound[i]
      row layout mode epsilon values bound (residualAt layout values residuals i)
        (source mode formulas values bound)
    fallbackRows := (sources.filter Source.isFallback).length
    firstDifference := sources.findIdx? Source.isDifferences }

/-! ## Filling in place -/

/-- A row that is being filled, and the values that it is filled at. -/
structure Sweep (n : Nat) (α : Type) where
  row : Vector α n
  values : Array α

/-- Takes the difference quotient of one column, by one step forward. -/
def Sweep.forward (layout : Layout α) (epsilon : α) (bound : Bound α) (here : α)
    (sweep : Sweep layout.unknowns α) (column : Nat) : Sweep layout.unknowns α :=
  let slot := layout.freeSlots.getD column 0
  let saved := sweep.values.getD slot Scalar.zero
  let raised := sweep.values.setIfInBounds slot (saved + epsilon)
  let ahead := bound.residual raised
  { row := sweep.row.setIfInBounds column ((ahead - here) / epsilon)
    values := raised.setIfInBounds slot saved }

/-- Takes the difference quotient of one column, by one step either way. -/
def Sweep.central (layout : Layout α) (epsilon : α) (bound : Bound α)
    (sweep : Sweep layout.unknowns α) (column : Nat) : Sweep layout.unknowns α :=
  let slot := layout.freeSlots.getD column 0
  let saved := sweep.values.getD slot Scalar.zero
  let raised := sweep.values.setIfInBounds slot (saved + epsilon)
  let ahead := bound.residual raised
  let lowered := raised.setIfInBounds slot (saved - epsilon)
  let behind := bound.residual lowered
  { row := sweep.row.setIfInBounds column ((ahead - behind) / (Scalar.two * epsilon))
    values := lowered.setIfInBounds slot saved }

/-- Takes the difference quotients of a constraint, column by column. -/
def sweep (layout : Layout α) (mode : DerivativeMode) (epsilon : α) (values : Array α)
    (bound : Bound α) (here : α) : Sweep layout.unknowns α :=
  let blank : Sweep layout.unknowns α := ⟨Vector.replicate layout.unknowns Scalar.zero, values⟩
  match mode with
  | .central => bound.columns.foldl (Sweep.central layout epsilon bound) blank
  | _ => bound.columns.foldl (Sweep.forward layout epsilon bound here) blank

/-- A matrix that is being filled, and the values that it is filled at. -/
structure Filling (m n : Nat) (α : Type) extends Jacobian m n α where
  values : Array α

/-- A matrix of zeros, to be filled at given values. -/
def Filling.start (m n : Nat) (values : Array α) : Filling m n α where
  matrix := Vector.replicate m (Vector.replicate n Scalar.zero)
  fallbackRows := 0
  firstDifference := none
  values := values

/-- Fills the row of one constraint, at the values as the rows before have left them. -/
def fillRow (layout : Layout α) (mode : DerivativeMode) (epsilon : α) (formulas : Formulas α)
    (residuals : Option (Vector α layout.equations))
    (filling : Filling layout.equations layout.unknowns α) (i : Fin layout.bound.size) :
    Filling layout.equations layout.unknowns α :=
  let bound := layout.bound[i]
  match source mode formulas filling.values bound with
  | .blank => filling
  | .formula partials =>
    { filling with matrix := filling.matrix.set i.val (partialsRow layout partials) i.isLt }
  | .differences fallback =>
    let here := residualAt layout filling.values residuals i
    let swept := sweep layout mode epsilon filling.values bound here
    { matrix := filling.matrix.set i.val swept.row i.isLt
      fallbackRows := filling.fallbackRows + if fallback then 1 else 0
      firstDifference := filling.firstDifference.or (some i.val)
      values := swept.values }

/-- Fills the matrix of derivatives at given values, row by row, and tells the values it leaves. The
residuals at the given values may be handed over. -/
def fill (layout : Layout α) (mode : DerivativeMode) (epsilon : α) (formulas : Formulas α)
    (values : Array α) (residuals : Option (Vector α layout.equations)) :
    Filling layout.equations layout.unknowns α :=
  (List.finRange layout.equations).foldl (fillRow layout mode epsilon formulas residuals)
    (Filling.start layout.equations layout.unknowns values)

end Jacobian

end PlanarSketch
