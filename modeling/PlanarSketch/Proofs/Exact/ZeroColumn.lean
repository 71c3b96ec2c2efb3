import Mathlib
import PlanarSketch.Linear.Correction
import PlanarSketch.Proofs.Exact.Correction
import PlanarSketch.Proofs.Exact.Pivots

/-!
# Unknowns without influence

An unknown that no equation changes with is a column of zeros in the matrix of derivatives. Read
exactly, with a positive pivot tolerance, a correction leaves it alone
(`Correction.get_delta_of_zeroColumn`).

Exchanging rows and clearing columns keep a column of zeros (`Elimination.zeroColumn_forward`), so
its diagonal entry counts as zero in the end, and the backward pass skips it. A column of zeros is
one in the products that least squares eliminates, too, and a combination of the rows vanishes there
anyway.
-/

set_option autoImplicit false

namespace PlanarSketch

open BigOperators

/-- A column in which all entries are zero. -/
def Dense.ZeroColumn {m n : ℕ} (a : Dense m n ℝ) (c : Fin n) : Prop := ∀ i, a.entry i c = 0

namespace Elimination

variable {n : ℕ} {tolerance : ℝ} {a : Dense n (n + 1) ℝ} {c : Fin (n + 1)}

theorem zeroColumn_swapRows (zero : a.ZeroColumn c) (i k : Fin n) :
    (swapRows a i k).ZeroColumn c := by
  intro r
  rw [entry_swapRows, zero]

theorem zeroColumn_clearBelow (zero : a.ZeroColumn c) (i : Fin n) :
    (clearBelow a i).ZeroColumn c := by
  intro r
  rw [entry_clearBelow, zero, zero, mul_zero, sub_zero, ite_self]

/-- **The forward pass keeps a column of zeros.** -/
theorem zeroColumn_forward {a : Dense n n ℝ} {c : Fin n} (zero : a.ZeroColumn c) (b : Vector ℝ n) :
    (forward tolerance a b).matrix.ZeroColumn c.castSucc := by
  refine foldl_finRange_induction
    (fun _ (state : State n ℝ) => state.matrix.ZeroColumn c.castSucc) ?_ ?_
  · intro i
    rw [entry_extended, zero]
  · intro i state before
    have swapped := zeroColumn_swapRows before i (pivotRow state.matrix i)
    rw [step]
    split
    case isTrue _ => exact swapped
    case isFalse _ => exact zeroColumn_clearBelow swapped i

end Elimination

/-- The unknown of a column of zeros is zero. -/
theorem eliminate_zeroColumn {n : ℕ} {tolerance : ℝ} (positive : 0 < tolerance) {a : Dense n n ℝ}
    {c : Fin n} (zero : a.ZeroColumn c) (b : Vector ℝ n) :
    (eliminate tolerance a b).solution.get c = 0 := by
  rw [eliminate, Elimination.get_backward, if_pos]
  rw [Elimination.isSkipped, Scalar.lt_iff, Scalar.abs_eq, Elimination.zeroColumn_forward zero b c,
    abs_zero]
  exact positive

namespace Correction

variable {m n : ℕ} {tolerance : ℝ} {j : Dense m n ℝ} {c : Fin n}

theorem delta_shortest_of_zeroColumn (zero : j.ZeroColumn c) (right : Vector ℝ m) (skipped : ℕ) :
    (shortest tolerance j right skipped).delta.get c = 0 := by
  rw [shortest, Dense.apply, Dense.get_ofFn, Dense.dot_eq]
  refine Finset.sum_eq_zero fun i _ => ?_
  have entry : (j.transpose.get c).get i = j.entry i c := Dense.entry_transpose j c i
  rw [entry, zero, zero_mul]

theorem delta_leastSquares_of_zeroColumn (positive : 0 < tolerance) (zero : j.ZeroColumn c)
    (right : Vector ℝ m) : (leastSquares tolerance j right).delta.get c = 0 := by
  refine eliminate_zeroColumn positive (fun k => ?_) _
  rw [Dense.gram, Dense.entry_ofFn, Dense.dot_eq]
  refine Finset.sum_eq_zero fun i _ => ?_
  have entry : (j.transpose.get c).get i = j.entry i c := Dense.entry_transpose j c i
  rw [entry, zero, mul_zero]

theorem delta_direct_of_zeroColumn (positive : 0 < tolerance) {j : Dense n n ℝ}
    (zero : j.ZeroColumn c) (right : Vector ℝ n) : (direct tolerance j right).delta.get c = 0 := by
  rw [direct]
  split
  case isTrue _ => exact eliminate_zeroColumn positive zero right
  case isFalse _ => exact delta_shortest_of_zeroColumn zero right _

/-- **A correction leaves alone an unknown that no equation changes with.** -/
theorem get_delta_of_zeroColumn (positive : 0 < tolerance) (zero : j.ZeroColumn c)
    {residuals : Vector ℝ m} {correction : Correction n ℝ}
    (solved : solve tolerance j residuals = .ok correction) :
    correction.delta.get c = 0 := by
  have stepped (right : Vector ℝ m) : (step tolerance j right).delta.get c = 0 := by
    unfold step
    split
    case isTrue square =>
      subst square
      exact delta_direct_of_zeroColumn positive zero right
    case isFalse _ =>
      split
      case isTrue _ => exact delta_leastSquares_of_zeroColumn positive zero right
      case isFalse _ => exact delta_shortest_of_zeroColumn zero right 0
  rw [solve_eq] at solved
  split at solved
  case isTrue _ => cases solved
  case isFalse _ =>
    cases solved
    exact stepped _

end Correction

end PlanarSketch
