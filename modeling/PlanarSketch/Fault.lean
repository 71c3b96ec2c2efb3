import PlanarSketch.Config
import PlanarSketch.Record.Formula
import PlanarSketch.Solve

/-!
# Faults of a run

Some failures show only where a run comes upon them: a given formula that cannot be read for a
constraint, a step of difference quotients that is no number or zero, a pivot tolerance too large
for a double. Each has a place: an iteration, and in it the row of the matrix that was being filled.
The earliest one ends the run (`Fault.first?`). The pivot tolerance is used when all rows are
filled.

Building a matrix by itself counts as the first iteration.
-/

set_option autoImplicit false

namespace PlanarSketch

/-- A failure with its place in a run. -/
structure Fault where
  iteration : Nat
  row : Nat
  error : Error Float

namespace Fault

def before (a b : Fault) : Bool :=
  a.iteration < b.iteration || (a.iteration = b.iteration && a.row < b.row)

/-- The earliest fault; of those at one place the first of the list. -/
def first? : List Fault → Option Fault
  | [] => none
  | fault :: rest =>
    match first? rest with
    | none => some fault
    | some other => if other.before fault then some other else some fault

/-- The first row for which a given formula is needed that cannot be read. -/
def ofFormulas (layout : Layout Float) (mode : DerivativeMode) (given : List GivenFormula) :
    List Fault :=
  match mode with
  | .analytic =>
    let failures := layout.bound.toList.zipIdx.filterMap fun (bound, row) =>
      (GivenFormula.failure? given layout bound).map fun error => Fault.mk 1 row error
    failures.take 1
  | _ => []

/-- A step that cannot be used, at the place where it first would have been. -/
def ofStep (step : Except (Error Float) Float) (place : Option (Nat × Nat)) : List Fault :=
  match step, place with
  | .error error, some (iteration, row) => [⟨iteration, row, error⟩]
  | _, _ => []

/-- A pivot tolerance that cannot be used, after all rows of the first iteration. -/
def ofPivots (tolerance : Number) (equations : Nat) : List Fault :=
  if tolerance.isOversize then [⟨1, equations, .tooLarge⟩] else []

end Fault

/-- A step of difference quotients is not zero. -/
def Fault.checkStep (step : Float) : Except (Error Float) Float :=
  if Scalar.isZero step then .error .zeroStep else .ok step

/-- A number as a step of difference quotients. -/
def Number.toStep (number : Number) : Except (Error Float) Float := do
  Fault.checkStep (← number.toDouble)

/-- A value as a step of difference quotients. -/
def Json.toStep (value : Json) : Except (Error Float) Float := do
  Fault.checkStep (← value.toSummand)

/-- A value as the mode in which a matrix of derivatives is filled. -/
def Json.toMode (value : Json) : Except (Error Float) DerivativeMode :=
  match DerivativeMode.ofJson? value with
  | some mode => .ok mode
  | none => .error (.derivativeMode value)

/-- Whether a run built a matrix of derivatives. -/
def Outcome.builtMatrix {α : Type} (outcome : Outcome α) : Bool :=
  !outcome.trace.isEmpty || outcome.ending = .failed (.noCorrection .notFinite)

/-- The fault that ends a run, when the run without faults has a given outcome. -/
def Outcome.fault? (outcome : Outcome Float) (config : Config) (layout : Layout Float)
    (given : List GivenFormula) : Option Fault :=
  if outcome.builtMatrix then
    Fault.first?
      (Fault.ofFormulas layout config.mode given ++
        Fault.ofStep config.epsilon.toStep outcome.firstDifference ++
        Fault.ofPivots config.pivotTolerance layout.equations)
  else none

/-- The matrix of derivatives of a store with formulas and a step as given. -/
def Store.givenJacobian (store : Store Float) (mode : DerivativeMode)
    (step : Except (Error Float) Float) (given : List GivenFormula) :
    Except (Error Float) ((m : Nat) × (n : Nat) × Jacobian.Filling m n Float) := do
  let layout ← Layout.ofStore store
  let usable := match step with
    | .ok x => x
    | .error _ => Scalar.one
  let jacobian ← store.jacobian mode usable (Formulas.given layout given)
  let difference := jacobian.2.2.firstDifference.map fun row => (1, row)
  match Fault.first? (Fault.ofFormulas layout mode given ++ Fault.ofStep step difference) with
  | some fault => .error fault.error
  | none => return jacobian

end PlanarSketch
