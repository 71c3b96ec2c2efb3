import Mathlib
import PlanarSketch.Linear.Dense
import PlanarSketch.Proofs.Number.Order

/-!
# The exact reading

Over the real numbers every operation of `Scalar` is what its name says, comparisons are the usual
ones and every number is finite. The same definitions that run over doubles can then be read
exactly: sums do not depend on the order of their terms, and equations can be solved for their
unknowns.

Sums of lists and scalar products become finite sums (`Scalar.sum_eq`, `Dense.dot_eq`).
-/

set_option autoImplicit false

namespace PlanarSketch

open Classical in
/-- The real numbers, with exact operations. -/
noncomputable instance : Scalar ℝ where
  ofNat n := n
  abs x := |x|
  sqrt := Real.sqrt
  hypot x y := Real.sqrt (x * x + y * y)
  arccos := Real.arccos
  pi := Real.pi
  lt x y := decide (x < y)
  same x y := decide (x = y)
  isFinite _ := true

namespace Scalar

@[simp] theorem zero_eq : (zero : ℝ) = 0 := Nat.cast_zero

@[simp] theorem one_eq : (one : ℝ) = 1 := Nat.cast_one

@[simp] theorem abs_eq (x : ℝ) : Scalar.abs x = |x| := rfl

theorem hypot_eq (x y : ℝ) : hypot x y = Real.sqrt (x * x + y * y) := rfl

@[simp] theorem lt_iff (x y : ℝ) : lt x y = true ↔ x < y := decide_eq_true_iff

theorem lt_eq_false_iff (x y : ℝ) : lt x y = false ↔ y ≤ x := by
  rw [Bool.eq_false_iff, ne_eq, lt_iff, not_lt]

@[simp] theorem isZero_iff (x : ℝ) : isZero x = true ↔ x = 0 := by
  rw [← zero_eq]
  exact decide_eq_true_iff

theorem atMost_eq (limit x : ℝ) : atMost limit x = min limit x := by
  rw [atMost, min_comm, min_def_lt]
  simp only [lt_iff]

theorem atLeast_eq (limit x : ℝ) : atLeast limit x = max limit x := by
  rw [atLeast, max_def_lt]
  simp only [lt_iff]

@[simp] theorem isFinite_eq (x : ℝ) : isFinite x = true := rfl

instance : StrictOrder ℝ where
  lt_self x := Bool.eq_false_iff.mpr (by simp)
  lt_trans := by
    intro x y z
    simpa using lt_trans

theorem sum_eq (xs : List ℝ) : sum xs = xs.sum := by
  rw [sum, zero_eq, List.sum_eq_foldl]

end Scalar

open BigOperators

/-- The terms of a sum over some indices, as a finite sum. -/
theorem Scalar.sum_filter_finRange {n : ℕ} (among : Fin n → Prop) [DecidablePred among]
    (f : Fin n → ℝ) :
    Scalar.sum (((List.finRange n).filter fun i => among i).map f) = ∑ i with among i, f i := by
  rw [Scalar.sum_eq, Finset.sum_filter, Fin.sum_univ_def]
  induction List.finRange n with
  | nil => rfl
  | cons i rest ih => by_cases here : among i <;> simp [here, ih]

theorem Dense.get_ofFn {β : Type} {n : ℕ} (f : Fin n → β) (i : Fin n) :
    (Vector.ofFn f).get i = f i :=
  Vector.getElem_ofFn i.isLt

theorem Dense.get_map {β γ : Type} {n : ℕ} (f : β → γ) (x : Vector β n) (i : Fin n) :
    (x.map f).get i = f (x.get i) :=
  Vector.getElem_map _ i.isLt

theorem Dense.dot_eq {n : ℕ} (x y : Vector ℝ n) : Dense.dot x y = ∑ k, x.get k * y.get k := by
  rw [Dense.dot, Scalar.sum_eq, Fin.sum_univ_def]

end PlanarSketch
