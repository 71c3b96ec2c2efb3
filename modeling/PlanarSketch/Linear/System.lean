import PlanarSketch.Linear.Correction
import PlanarSketch.Linear.Table

/-!
# Systems given as tables

A system given by tables can be eliminated, or a correction found for it, when its sizes fit.

A tolerance that goes with a system may itself have failed to be a number. That counts only where a
pivot is compared with it, which is after all sizes were found to fit.
-/

set_option autoImplicit false

namespace PlanarSketch

namespace Table

variable {α : Type}

/-- The sizes of the result when a matrix is applied to a table: the last direction but one is the
one that is used up, or the only one. -/
def productExtent (rows columns : Nat) (extent : List Nat) : Except ExtentError (List Nat) :=
  let fit (found : Nat) (result : List Nat) : Except ExtentError (List Nat) :=
    if found = columns then .ok result else .error (.product columns found)
  match extent.reverse with
  | [] => .error .productOfNumber
  | [size] => fit size [rows]
  | last :: size :: outer => fit size (last :: rows :: outer).reverse

/-- Whether a table can be the right side of the system that the correction for `m` equations in `n`
unknowns comes from. With more equations than unknowns that is the product of a matrix with the
table. -/
def checkResiduals (m n : Nat) (residuals : Table α) : Except ExtentError Unit := do
  let right ← if n < m then productExtent n m residuals.extent else pure residuals.extent
  let size := min m n
  if right = [size] then return ()
  else .error (.notSquare [size, size] right)

variable [Scalar α]

/-- Solves the system of a matrix and a right side. The matrix must be square and the right side a
vector of its size. -/
def eliminate (tolerance : Except (Error α) α) (a b : Table α) :
    Except (Error α) ((n : Nat) × Eliminated n α) :=
  match a.matrix? with
  | some ⟨m, n, matrix⟩ =>
    if square : m = n then
      if b.extent = [n] then
        if n = 0 then .ok ⟨0, ⟨Vector.replicate 0 Scalar.zero, 0⟩⟩
        else do return ⟨n, PlanarSketch.eliminate (← tolerance) (square ▸ matrix) (b.vector n)⟩
      else .error (.extent (.notSquare a.extent b.extent))
    else .error (.extent (.notSquare a.extent b.extent))
  | none =>
    if a.extent.isEmpty then .error (.position .part)
    else .error (.extent (.notSquare a.extent b.extent))

/-- The correction for a matrix of derivatives and a table of residuals. An empty system is reported
before a table that does not hold one residual for each equation. -/
def correct {m n : Nat} (tolerance : Except (Error α) α) (j : Dense m n α) (residuals : Table α) :
    Except (Error α) (Correction n α) :=
  if m = 0 ∨ n = 0 then .error (.linear (.empty m n))
  else do
    (residuals.checkResiduals m n).mapError .extent
    match Correction.solve (← tolerance) j (residuals.vector m) with
    | .ok correction => return correction
    | .error failure => .error (.linear failure)

end Table

end PlanarSketch
