import Mathlib
import PlanarSketch.Proofs.Exact.Correction

/-!
# Corrections of full rank

Read exactly, a correction that skipped no pivot is as good as a step can be
(`Correction.solve_full_rank`). With no more equations than unknowns it solves them, and no shorter
step does. With more equations it is the one step that leaves the least of the residuals.

Either step comes from a system of scalar products, whose one solution elimination finds. What is
left to show is that something is orthogonal: the shortest step to all steps that change nothing,
and what least squares leave of the residuals to all that a further step could change.
-/

set_option autoImplicit false

namespace PlanarSketch

open Matrix

variable {m n : ℕ}

namespace Dense

/-! ## Matrices as such -/

def toMatrix (a : Dense m n ℝ) : Matrix (Fin m) (Fin n) ℝ := Matrix.of a.entry

@[simp] theorem toMatrix_apply (a : Dense m n ℝ) (i : Fin m) (k : Fin n) :
    a.toMatrix i k = a.entry i k :=
  rfl

theorem get_apply (a : Dense m n ℝ) (x : Vector ℝ n) : (a.apply x).get = a.toMatrix *ᵥ x.get := by
  funext i
  rw [apply, get_ofFn, dot_eq]
  rfl

theorem toMatrix_transpose (a : Dense m n ℝ) : a.transpose.toMatrix = a.toMatrixᵀ := by
  ext i k
  exact entry_transpose a i k

theorem toMatrix_gram (a : Dense m n ℝ) : a.gram.toMatrix = a.toMatrix * a.toMatrixᵀ := by
  ext i k
  exact (entry_ofFn _ i k).trans (dot_eq _ _)

theorem get_injective {x y : Vector ℝ n} (same : x.get = y.get) : x = y :=
  Vector.ext fun i within => congrFun same ⟨i, within⟩

/-! ## Lengths -/

theorem norm_toList (x : Vector ℝ n) : Scalar.norm x.toList = Real.sqrt (x.get ⬝ᵥ x.get) := by
  have squares : (x.toList.map fun c => c * c) = List.ofFn fun i => x.get i * x.get i := by
    refine List.ext_getElem (by simp) fun i _ _ => ?_
    simp [Vector.get]
  rw [Scalar.norm, Scalar.sum_eq, squares, List.sum_ofFn]
  rfl

theorem dotProduct_self_add {x e : Fin n → ℝ} (orthogonal : x ⬝ᵥ e = 0) :
    (x + e) ⬝ᵥ (x + e) = x ⬝ᵥ x + e ⬝ᵥ e := by
  rw [add_dotProduct, dotProduct_add, dotProduct_add, dotProduct_comm e x, orthogonal]
  ring

/-- Going off at a right angle leads no nearer. -/
theorem norm_le_of_orthogonal {x y : Vector ℝ n} {e : Fin n → ℝ} (off : y.get = x.get + e)
    (orthogonal : x.get ⬝ᵥ e = 0) : Scalar.norm x.toList ≤ Scalar.norm y.toList := by
  have nonneg : 0 ≤ e ⬝ᵥ e := by simpa using dotProduct_self_star_nonneg e
  rw [norm_toList, norm_toList, off, dotProduct_self_add orthogonal]
  exact Real.sqrt_le_sqrt (le_add_of_nonneg_right nonneg)

/-- Going off at a right angle leads further away. -/
theorem norm_lt_of_orthogonal {x y : Vector ℝ n} {e : Fin n → ℝ} (off : y.get = x.get + e)
    (orthogonal : x.get ⬝ᵥ e = 0) (moved : e ≠ 0) :
    Scalar.norm x.toList < Scalar.norm y.toList := by
  have nonneg : 0 ≤ x.get ⬝ᵥ x.get := by simpa using dotProduct_self_star_nonneg x.get
  have positive : 0 < e ⬝ᵥ e := by simpa using dotProduct_self_star_pos_iff.mpr moved
  rw [norm_toList, norm_toList, off, dotProduct_self_add orthogonal]
  exact Real.sqrt_lt_sqrt nonneg (lt_add_of_pos_right _ positive)

/-- What a step leaves of the residuals of a linear system. -/
def remaining {α : Type} [Scalar α] (j : Dense m n α) (residuals : Vector α m) (step : Vector α n) :
    Vector α m :=
  Vector.ofFn fun i => (j.apply step).get i + residuals.get i

theorem get_remaining (j : Dense m n ℝ) (residuals : Vector ℝ m) (step : Vector ℝ n) :
    (j.remaining residuals step).get = j.toMatrix *ᵥ step.get + residuals.get := by
  funext i
  rw [remaining, get_ofFn, get_apply]
  rfl

end Dense

variable {tolerance : ℝ}

/-- An elimination that skips nothing finds the one vector that the matrix takes to the right
side. -/
theorem eliminate_mulVec_iff (positive : 0 < tolerance) {a : Dense n n ℝ} {b : Vector ℝ n}
    (all : (eliminate tolerance a b).skipped = 0) (z : Fin n → ℝ) :
    a.toMatrix *ᵥ z = b.get ↔ z = (eliminate tolerance a b).solution.get := by
  rw [funext_iff, funext_iff, ← eliminate_iff positive all z]
  rfl

namespace Correction

/-- A step solves a system, and no shorter one does. -/
structure IsShortest (j : Dense m n ℝ) (right : Vector ℝ m) (delta : Vector ℝ n) : Prop where
  solves : j.apply delta = right
  least : ∀ other, j.apply other = right → Scalar.norm delta.toList ≤ Scalar.norm other.toList

/-- A step leaves less of the residuals than any other. -/
def LeavesLeast (j : Dense m n ℝ) (residuals : Vector ℝ m) (delta : Vector ℝ n) : Prop :=
  ∀ other, other ≠ delta →
    Scalar.norm (j.remaining residuals delta).toList <
      Scalar.norm (j.remaining residuals other).toList

/-- **A combination of the rows that solves a system is its shortest solution.** -/
theorem isShortest_of_rows {j : Dense m n ℝ} {right : Vector ℝ m} {multipliers : Vector ℝ m}
    (solves : (j.gram.apply multipliers) = right) :
    IsShortest j right (j.transpose.apply multipliers) := by
  have row : (j.transpose.apply multipliers).get = j.toMatrixᵀ *ᵥ multipliers.get := by
    rw [Dense.get_apply, Dense.toMatrix_transpose]
  have solved : j.apply (j.transpose.apply multipliers) = right := by
    apply Dense.get_injective
    rw [← solves, Dense.get_apply j, Dense.get_apply j.gram, row, mulVec_mulVec,
      Dense.toMatrix_gram]
  -- What changes nothing is orthogonal to all rows, and so to their combination.
  have orthogonal (e : Fin n → ℝ) (nothing : j.toMatrix *ᵥ e = 0) :
      (j.transpose.apply multipliers).get ⬝ᵥ e = 0 := by
    rw [row, mulVec_transpose, ← dotProduct_mulVec, nothing, dotProduct_zero]
  refine ⟨solved, fun other also => ?_⟩
  have unchanged : j.toMatrix *ᵥ (other.get - (j.transpose.apply multipliers).get) = 0 := by
    rw [mulVec_sub, ← Dense.get_apply, ← Dense.get_apply, also, solved, sub_self]
  exact Dense.norm_le_of_orthogonal (add_sub_cancel _ _).symm (orthogonal _ unchanged)

theorem isShortest_shortest (positive : 0 < tolerance) {j : Dense m n ℝ} {right : Vector ℝ m}
    (all : (shortest tolerance j right 0).skipped = 0) :
    IsShortest j right (shortest tolerance j right 0).delta := by
  have none : (eliminate tolerance j.gram right).skipped = 0 := (Nat.zero_max _).symm.trans all
  apply isShortest_of_rows
  apply Dense.get_injective
  rw [Dense.get_apply]
  exact (eliminate_mulVec_iff positive none _).mpr rfl

/-- With as many equations as unknowns there is one solution, which is the shortest for that. -/
theorem isShortest_direct (positive : 0 < tolerance) {j : Dense n n ℝ} {right : Vector ℝ n}
    (all : (direct tolerance j right).skipped = 0) :
    IsShortest j right (direct tolerance j right).delta := by
  obtain ⟨none, found⟩ := direct_of_skipped all
  have only (other : Vector ℝ n) :
      j.apply other = right ↔ other = (direct tolerance j right).delta := by
    rw [found]
    constructor
    · intro solves
      apply Dense.get_injective
      rw [← eliminate_mulVec_iff positive none, ← Dense.get_apply, solves]
    · rintro rfl
      apply Dense.get_injective
      rw [Dense.get_apply, eliminate_mulVec_iff positive none]
  refine ⟨(only _).mpr rfl, fun other solves => ?_⟩
  rw [(only other).mp solves]

/-- The step of least squares is the one that leaves something orthogonal to all columns. -/
theorem leastSquares_iff (positive : 0 < tolerance) {j : Dense m n ℝ} {residuals : Vector ℝ m}
    (all : (leastSquares tolerance j (residuals.map fun r => -r)).skipped = 0) (z : Fin n → ℝ) :
    j.toMatrixᵀ *ᵥ (j.toMatrix *ᵥ z + residuals.get) = 0 ↔
      z = (leastSquares tolerance j (residuals.map fun r => -r)).delta.get := by
  have negated : (residuals.map fun r => -r).get = -residuals.get :=
    funext fun i => Dense.get_map _ _ i
  rw [leastSquares, ← eliminate_mulVec_iff positive all z, Dense.toMatrix_gram, Dense.get_apply,
    Dense.toMatrix_transpose, transpose_transpose, negated, ← mulVec_mulVec, mulVec_add, mulVec_neg,
    add_eq_zero_iff_eq_neg]

/-- **The step of least squares leaves the least.** -/
theorem leavesLeast_leastSquares (positive : 0 < tolerance) {j : Dense m n ℝ}
    {residuals : Vector ℝ m}
    (all : (leastSquares tolerance j (residuals.map fun r => -r)).skipped = 0) :
    LeavesLeast j residuals (leastSquares tolerance j (residuals.map fun r => -r)).delta := by
  have normal := leastSquares_iff positive all
  generalize (leastSquares tolerance j (residuals.map fun r => -r)).delta = delta at normal ⊢
  intro other different
  have off : (j.remaining residuals other).get =
      (j.remaining residuals delta).get + j.toMatrix *ᵥ (other.get - delta.get) := by
    rw [Dense.get_remaining, Dense.get_remaining, mulVec_sub]
    abel
  refine Dense.norm_lt_of_orthogonal off ?_ ?_
  · rw [dotProduct_mulVec, ← mulVec_transpose, Dense.get_remaining, (normal _).mpr rfl,
      zero_dotProduct]
  · -- A step that leaves the same leaves something orthogonal, too, so it is the same step.
    intro same
    rw [mulVec_sub, sub_eq_zero] at same
    apply different
    apply Dense.get_injective
    rw [← normal, same, (normal _).mpr rfl]

/-- **Corrections of full rank.** Where there are equations and unknowns there is a correction. If
it skipped no pivot and there are no more equations than unknowns, it solves them, and is the
shortest step that does; if there are more, it leaves less of the residuals than any other step. -/
theorem solve_full_rank (positive : 0 < tolerance) (equations : 0 < m) (unknowns : 0 < n)
    (j : Dense m n ℝ) (residuals : Vector ℝ m) :
    ∃ correction, solve tolerance j residuals = .ok correction ∧
      (correction.skipped = 0 →
        (m ≤ n → IsShortest j (residuals.map fun r => -r) correction.delta) ∧
        (n < m → LeavesLeast j residuals correction.delta)) := by
  refine ⟨_, (solve_eq tolerance j residuals).trans (if_neg (by omega)), fun all => ?_⟩
  rcases lt_trichotomy m n with wide | rfl | tall
  · rw [step, dif_neg wide.ne, if_neg wide.asymm] at all ⊢
    exact ⟨fun _ => isShortest_shortest positive all, fun tall => absurd tall wide.asymm⟩
  · rw [step, dif_pos rfl] at all ⊢
    exact ⟨fun _ => isShortest_direct positive all, fun tall => absurd tall (lt_irrefl _)⟩
  · rw [step, dif_neg tall.ne', if_pos tall] at all ⊢
    exact ⟨fun wide => absurd wide (not_le.mpr tall), fun _ =>
      leavesLeast_leastSquares positive all⟩

/-- One equation for two unknowns has a shortest solution, and of two equations for one unknown a
step can leave the least, since no pivot is skipped either way. -/
theorem solve_full_rank_ones :
    (∃ correction,
      solve 1 (Dense.ofFn fun (_ : Fin 1) (_ : Fin 2) => (1 : ℝ)) #v[3] = .ok correction ∧
      IsShortest (Dense.ofFn fun _ _ => 1) #v[-3] correction.delta) ∧
    ∃ correction,
      solve 1 (Dense.ofFn fun (_ : Fin 2) (_ : Fin 1) => (1 : ℝ)) #v[3, 5] = .ok correction ∧
      LeavesLeast (Dense.ofFn fun _ _ => 1) #v[3, 5] correction.delta := by
  constructor
  · obtain ⟨correction, solved, good⟩ := solve_full_rank one_pos one_pos two_pos
      (Dense.ofFn fun (_ : Fin 1) (_ : Fin 2) => (1 : ℝ)) #v[3]
    refine ⟨correction, solved, ?_⟩
    rw [solve_eq, if_neg (by decide)] at solved
    cases solved
    have large : 1 ≤ (Dense.ofFn fun (_ : Fin 1) (_ : Fin 2) => (1 : ℝ)).entry 0 0 *
        (Dense.ofFn fun (_ : Fin 1) (_ : Fin 2) => (1 : ℝ)).entry 0 0 := by simp
    simpa using (good (skipped_step_of_one rfl one_lt_two _ large)).1 one_le_two
  · obtain ⟨correction, solved, good⟩ := solve_full_rank one_pos two_pos one_pos
      (Dense.ofFn fun (_ : Fin 2) (_ : Fin 1) => (1 : ℝ)) #v[3, 5]
    refine ⟨correction, solved, ?_⟩
    rw [solve_eq, if_neg (by decide)] at solved
    cases solved
    refine (good (skipped_eliminate_one _ ?_)).2 one_lt_two
    rw [← Dense.toMatrix_apply, Dense.toMatrix_gram, Dense.toMatrix_transpose]
    simp [Matrix.mul_apply]

end Correction

end PlanarSketch
