import PlanarSketch.Error
import PlanarSketch.Linear.Elimination

/-!
# Corrections

A correction for a derivative matrix `j` and residuals `r` solves `j * d = -r` as well as it can be
solved:

* with as many equations as unknowns, by elimination; when that skips a pivot, by the step of the
  next case instead, so that an equation without content cannot pin an unknown;
* with fewer equations, by the shortest step: the combination `jᵀ * y` of the rows with
  `(j * jᵀ) * y = -r`;
* with more equations, by least squares: `(jᵀ * j) * d = -jᵀ * r`.
-/

set_option autoImplicit false

namespace PlanarSketch

/-- How a correction was computed. -/
inductive CorrectionForm where
  | square
  | minimumNorm
  | normal
deriving DecidableEq, Repr

def CorrectionForm.name : CorrectionForm → String
  | square => "square"
  | minimumNorm => "min-norm"
  | normal => "normal"

/-- A correction: the step, how many pivots were skipped, and how it was computed. -/
structure Correction (n : Nat) (α : Type) where
  delta : Vector α n
  skipped : Nat
  form : CorrectionForm

namespace Correction

variable {m n : Nat} {α : Type} [Scalar α]

/-- The shortest step, with `skipped` pivots already skipped before. -/
def shortest (tolerance : α) (j : Dense m n α) (right : Vector α m) (skipped : Nat) :
    Correction n α :=
  let multipliers := eliminate tolerance j.gram right
  { delta := j.transpose.apply multipliers.solution
    skipped := max skipped multipliers.skipped
    form := .minimumNorm }

/-- The step of least squares. -/
def leastSquares (tolerance : α) (j : Dense m n α) (right : Vector α m) : Correction n α :=
  let solved := eliminate tolerance j.transpose.gram (j.transpose.apply right)
  ⟨solved.solution, solved.skipped, .normal⟩

/-- The step of a system with as many equations as unknowns. -/
def direct (tolerance : α) (j : Dense n n α) (right : Vector α n) : Correction n α :=
  let solved := eliminate tolerance j right
  if solved.skipped = 0 then ⟨solved.solution, 0, .square⟩
  else shortest tolerance j right solved.skipped

/-- The step for a right side, by the shape of the matrix. -/
def step (tolerance : α) (j : Dense m n α) (right : Vector α m) : Correction n α :=
  if square : m = n then direct tolerance (square ▸ j) (square ▸ right)
  else if n < m then leastSquares tolerance j right
  else shortest tolerance j right 0

/-- The correction for derivatives and residuals. There must be equations and unknowns, and the step
must be finite. -/
def solve (tolerance : α) (j : Dense m n α) (residuals : Vector α m) :
    Except LinearFailure (Correction n α) :=
  if m = 0 ∨ n = 0 then .error (.empty m n)
  else
    let correction := step tolerance j (residuals.map fun r => -r)
    if correction.delta.toList.all Scalar.isFinite then .ok correction else .error .notFinite

end Correction

end PlanarSketch
