import PlanarSketch.Jacobian
import PlanarSketch.Record.Position
import PlanarSketch.Record.Quantity

/-!
# Formulas given as values

A formula for the derivatives of one kind of relation can be given by a value. When that is null,
the formula has no derivative anywhere. Otherwise its items are rows of three parts: the position of
a reference of the relation, a parameter counted from the first one of what is referred to, and a
partial derivative, the same at all values. The slot of a row may be negative and then counts from
the end; a row for the slot of a fixed entity has no effect, so its derivative need not even be a
number.

Such a formula is read for a constraint when a row of derivatives is filled with it, and that can
fail (`GivenFormula.read`).
-/

set_option autoImplicit false

namespace PlanarSketch

/-- A formula for a kind of relation as it was given. -/
structure GivenFormula where
  kind : RelationKind
  rows : Json

namespace GivenFormula

/-- The three parts of a row. -/
def parts (row : Json) : Except (Error Float) (Json × Json × Json) := do
  match ← row.items with
  | [reference, parameter, derivative] => return (reference, parameter, derivative)
  | items => .error (.partCount 3 items.length)

/-- A row as a slot, as it was counted, and a derivative. -/
def entry (operands : List Operand) (row : Json) : Except (Error Float) (Number × Json) := do
  let (reference, parameter, derivative) ← parts row
  let place ← Position.ofJson operands.length .part reference
  let offset := ((operands.map Operand.offset)[place]?).getD 0
  return (← Number.add (.whole offset) (← parameter.toNumber), derivative)

/-- The slot that a number counts. A whole number that no machine word holds is taken for no whole
number. -/
def slot (size : Nat) (number : Number) : Except (Error Float) Nat :=
  match number.whole? with
  | none => .error (.position .notWhole)
  | some index =>
    if Position.isCountable index then
      match Position.place? size index with
      | some place => .ok place
      | none => .error (.position (.slot index size))
    else if Position.isUnsigned index then .error .slotTooLarge
    else .error (.position .notWhole)

/-- The partial derivatives of entries, those of fixed slots left out. -/
def partials (layout : Layout Float) : List (Number × Json) → Except (Error Float) (Partials Float)
  | [] => .ok []
  | (number, derivative) :: rest => do
    let slot ← slot layout.size number
    if (layout.columnOf slot).isSome then
      let x ← derivative.toSummand
      return (slot, x) :: (← partials layout rest)
    else partials layout rest

/-- The partial derivatives for a bound constraint, if the formula has any. -/
def read (formula : GivenFormula) (layout : Layout Float) (bound : Bound Float) :
    Except (Error Float) (Option (Partials Float)) :=
  match formula.rows with
  | .null => .ok none
  | rows => do
    let entries ← (← rows.items).mapM (entry bound.relation.refs)
    return some (← partials layout entries)

/-- A given formula as a formula; where it cannot be read it has no derivative. -/
def formula (layout : Layout Float) (given : GivenFormula) : Formula Float := fun _ bound =>
  match given.read layout bound with
  | .ok partials => partials
  | .error _ => none

/-- The failure of given formulas to be read for a bound constraint. Of two formulas for one kind of
relation the later counts, and only constraints that depend on an unknown need one. -/
def failure? (given : List GivenFormula) (layout : Layout Float) (bound : Bound Float) :
    Option (Error Float) :=
  if bound.columns.isEmpty then none
  else
    match given.reverse.find? fun formula => formula.kind = bound.kind with
    | none => none
    | some formula =>
      match formula.read layout bound with
      | .ok _ => none
      | .error error => some error

/-- The given formulas of an object: one for each field, which names the kind of relation. -/
def ofJson : Json → Except (Error Float) (List GivenFormula)
  | .obj fields => fields.mapM fun field =>
      match RelationKind.ofName? field.1 with
      | some kind => .ok ⟨kind, field.2⟩
      | none => .error (.relationKind (.str field.1))
  | _ => .error .noSuchOperation

end GivenFormula

/-- The formulas in use when some are given: those take the place of the standard ones. -/
def Formulas.given (layout : Layout Float) (given : List GivenFormula) : Formulas Float :=
  standard.updated (given.map fun one => (one.kind, one.formula layout))

end PlanarSketch
