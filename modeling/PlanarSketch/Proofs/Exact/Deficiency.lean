import Mathlib
import PlanarSketch.Proofs.Exact.LostRows

/-!
# The pivots a correction skips

A correction reports how many pivots were skipped. Read exactly, and as long as no entry that a
pivot is chosen from is small without being zero, that number is never less than what the rank of
the derivatives falls short of, and it is zero exactly for full rank. It is what the rank falls
short of exactly when none of the eliminations performed (`Correction.Eliminates`) loses a row
(`Correction.solve_deficiency`).

Whether a row is lost depends on the order of the equations (`Correction.solve_deficiency_ordered`):
the same two equations count for one skipped pivot in one order and for two in the other.
-/

set_option autoImplicit false

namespace PlanarSketch

open Matrix

variable {m n : ℕ} {tolerance : ℝ}

namespace Correction

/-- The systems that are eliminated on the way to a step. -/
inductive Eliminates (tolerance : ℝ) (j : Dense m n ℝ) (right : Vector ℝ m) :
    (size : ℕ) → Dense size size ℝ → Vector ℝ size → Prop where
  | direct (square : m = n) : Eliminates tolerance j right n (square ▸ j) (square ▸ right)
  /-- A square system that skips a pivot is given up for the shortest step. -/
  | again (square : m = n)
      (some : (eliminate tolerance (square ▸ j : Dense n n ℝ) (square ▸ right)).skipped ≠ 0) :
      Eliminates tolerance j right m j.gram right
  | shortest (wide : m < n) : Eliminates tolerance j right m j.gram right
  | leastSquares (tall : n < m) :
      Eliminates tolerance j right n j.transpose.gram (j.transpose.apply right)

theorem rank_gram (j : Dense m n ℝ) : j.gram.toMatrix.rank = j.toMatrix.rank := by
  rw [Dense.toMatrix_gram, rank_self_mul_transpose]

theorem rank_gram_transpose (j : Dense m n ℝ) :
    j.transpose.gram.toMatrix.rank = j.toMatrix.rank := by
  rw [rank_gram, Dense.toMatrix_transpose, rank_transpose]

theorem skipped_step_of_square (tolerance : ℝ) (j : Dense n n ℝ) (right : Vector ℝ n) :
    (step tolerance j right).skipped =
      if (eliminate tolerance j right).skipped = 0 then 0
      else max (eliminate tolerance j right).skipped
        (eliminate tolerance j.gram right).skipped := by
  rw [step, dif_pos rfl, direct]
  split <;> rfl

namespace Eliminates

variable {j : Dense m n ℝ} {right : Vector ℝ m} {size : ℕ} {a : Dense size size ℝ}
  {b : Vector ℝ size}

/-- What is eliminated is as large as the smaller of the two numbers and has the rank of the
derivatives. -/
theorem rank_eq (performed : Eliminates tolerance j right size a b) :
    size = min m n ∧ a.toMatrix.rank = j.toMatrix.rank := by
  cases performed with
  | direct square =>
      cases square
      exact ⟨(min_self m).symm, rfl⟩
  | again square _ => exact ⟨(min_eq_left square.le).symm, rank_gram j⟩
  | shortest wide => exact ⟨(min_eq_left wide.le).symm, rank_gram j⟩
  | leastSquares tall => exact ⟨(min_eq_right tall.le).symm, rank_gram_transpose j⟩

/-- A step reports at least what each elimination skips. -/
theorem skipped_le (performed : Eliminates tolerance j right size a b) :
    (eliminate tolerance a b).skipped ≤ (step tolerance j right).skipped := by
  cases performed with
  | direct square =>
      cases square
      rw [skipped_step_of_square]
      split
      case isTrue none => exact none.le
      case isFalse _ => exact Nat.le_max_left _ _
  | again square some =>
      cases square
      rw [skipped_step_of_square, if_neg some]
      exact Nat.le_max_right _ _
  | shortest wide =>
      rw [step, dif_neg wide.ne, if_neg wide.asymm]
      exact Nat.le_max_right _ _
  | leastSquares tall => rw [step, dif_neg tall.ne', if_pos tall, Correction.leastSquares]

/-- Of a square matrix only itself and its scalar products of rows are eliminated. -/
theorem of_square {motive : (size : ℕ) → Dense size size ℝ → Vector ℝ size → Prop} {j : Dense n n ℝ}
    {right : Vector ℝ n} (own : motive n j right) (again : motive n j.gram right) :
    ∀ size a b, Eliminates tolerance j right size a b → motive size a b := by
  intro size a b performed
  cases performed with
  | direct _ => exact own
  | again _ _ => exact again
  | shortest wide => exact absurd wide (lt_irrefl n)
  | leastSquares tall => exact absurd tall (lt_irrefl n)

end Eliminates

/-- A step reports what one of its eliminations skips. -/
theorem exists_eliminates (tolerance : ℝ) (j : Dense m n ℝ) (right : Vector ℝ m) :
    ∃ size a b, Eliminates tolerance j right size a b ∧
      (eliminate tolerance a b).skipped = (step tolerance j right).skipped := by
  rcases lt_trichotomy m n with wide | rfl | tall
  · refine ⟨_, _, _, .shortest wide, ?_⟩
    rw [step, dif_neg wide.ne, if_neg wide.asymm, Correction.shortest]
    exact (Nat.zero_max _).symm
  · rw [skipped_step_of_square]
    by_cases none : (eliminate tolerance j right).skipped = 0
    · exact ⟨_, _, _, .direct rfl, none.trans (if_pos none).symm⟩
    · rw [if_neg none]
      rcases max_choice (eliminate tolerance j right).skipped
        (eliminate tolerance j.gram right).skipped with first | second
      · exact ⟨_, _, _, .direct rfl, first.symm⟩
      · exact ⟨_, _, _, .again rfl none, second.symm⟩
  · refine ⟨_, _, _, .leastSquares tall, ?_⟩
    rw [step, dif_neg tall.ne', if_pos tall, Correction.leastSquares]

/-! ## Two equations -/

theorem gram_pair (p q s : ℝ) (i k : Fin 2) :
    (Elimination.pair p q s).gram.entry i k = !![p * p + q * q, q * s; q * s, s * s] i k := by
  have row (i j : Fin 2) : ((Elimination.pair p q s).get i).get j = !![p, q; 0, s] i j :=
    Elimination.entry_pair p q s i j
  rw [Dense.gram, Dense.entry_ofFn, Dense.dot_eq, Fin.sum_univ_two]
  simp only [row]
  fin_cases i <;> fin_cases k <;> simp [mul_comm]

section Pair

variable {p q s : ℝ}

theorem upper_gram_pair (apart : q * s = 0) :
    ∀ k c : Fin 2, c < k → (Elimination.pair p q s).gram.entry k c = 0 := by
  intro k c below
  obtain ⟨rfl, rfl⟩ : k = 1 ∧ c = 0 := by omega
  simp [gram_pair, apart]

/-- Where only one of the two equations contains the second unknown, every elimination finds its
matrix triangular. -/
theorem clearCut_pair (apart : q * s = 0) (first : p = 0 ∨ tolerance ≤ |p|)
    (last : s = 0 ∨ tolerance ≤ |s|) (first' : p * p + q * q = 0 ∨ tolerance ≤ |p * p + q * q|)
    (last' : s * s = 0 ∨ tolerance ≤ |s * s|) (right : Vector ℝ 2) :
    ∀ size a b, Eliminates tolerance (Elimination.pair p q s) right size a b →
      Elimination.ClearCut tolerance a b := by
  refine Eliminates.of_square
    (Elimination.clearCut_of_upper (Elimination.upper_pair p q s) fun c => ?_)
    (Elimination.clearCut_of_upper (upper_gram_pair apart) fun c => ?_)
  · fin_cases c
    · simpa using first
    · simpa using last
  · fin_cases c
    · simpa [gram_pair] using first'
    · simpa [gram_pair] using last'

theorem skipped_pair (b : Vector ℝ 2) : (eliminate tolerance (Elimination.pair p q s) b).skipped =
    (if |p| < tolerance then 1 else 0) + if |s| < tolerance then 1 else 0 := by
  rw [Elimination.skipped_of_upper (Elimination.upper_pair p q s), Fin.sum_univ_two]
  simp

theorem skipped_gram_pair (apart : q * s = 0) (b : Vector ℝ 2) :
    (eliminate tolerance (Elimination.pair p q s).gram b).skipped =
      (if |p * p + q * q| < tolerance then 1 else 0) + if |s * s| < tolerance then 1 else 0 := by
  rw [Elimination.skipped_of_upper (upper_gram_pair apart), Fin.sum_univ_two]
  simp [gram_pair]

/-- Two equations for the second unknown alone, the second without content. -/
theorem rank_pair : (Elimination.pair 0 1 0).toMatrix.rank = 1 := by
  refine le_antisymm ?_ ?_
  · have product : (Elimination.pair 0 1 0).toMatrix = vecMulVec ![1, 0] ![0, 1] := by
      rw [Elimination.toMatrix_pair]
      ext i c
      fin_cases i <;> fin_cases c <;> simp [vecMulVec]
    rw [product]
    exact rank_vecMulVec_le _ _
  · -- The scalar products of the rows have the same rank, and only one pivot of them is skipped.
    have skipped : (eliminate 1 (Elimination.pair 0 1 0).gram #v[0, 0]).skipped = 1 := by
      rw [skipped_gram_pair (mul_zero 1)]
      norm_num
    have bound := Elimination.le_rank_add_card_passed one_pos (Elimination.pair 0 1 0).gram #v[0, 0]
    rw [← Elimination.skipped_forward, rank_gram] at bound
    have two : 1 + 1 ≤ (Elimination.pair 0 1 0).toMatrix.rank + 1 :=
      bound.trans_eq (congrArg _ skipped)
    exact Nat.le_of_add_le_add_right two

end Pair

/-- **What a correction reports about the rank.** -/
theorem solve_deficiency (positive : 0 < tolerance) (equations : 0 < m) (unknowns : 0 < n)
    (j : Dense m n ℝ) (residuals : Vector ℝ m)
    (clear : ∀ size a b, Eliminates tolerance j (residuals.map fun r => -r) size a b →
      Elimination.ClearCut tolerance a b) :
    ∃ correction, solve tolerance j residuals = .ok correction ∧
      min m n ≤ j.toMatrix.rank + correction.skipped ∧
      (correction.skipped = 0 ↔ j.toMatrix.rank = min m n) ∧
      (j.toMatrix.rank + correction.skipped = min m n ↔
        ∀ size a b, Eliminates tolerance j (residuals.map fun r => -r) size a b →
          Elimination.LosesNothing tolerance a b) := by
  refine ⟨_, (solve_eq tolerance j residuals).trans (if_neg (by omega)), ?_⟩
  set right := residuals.map fun r => -r
  have counted {size : ℕ} (a : Dense size size ℝ) (b : Vector ℝ size) :
      (eliminate tolerance a b).skipped = (Elimination.passed tolerance a b).card :=
    Elimination.skipped_forward
  have least {size : ℕ} {a : Dense size size ℝ} {b : Vector ℝ size}
      (performed : Eliminates tolerance j right size a b) :
      min m n ≤ j.toMatrix.rank + (Elimination.passed tolerance a b).card := by
    obtain ⟨rfl, same⟩ := performed.rank_eq
    exact same ▸ Elimination.le_rank_add_card_passed positive a b
  obtain ⟨size, a, b, performed, reported⟩ := exists_eliminates tolerance j right
  obtain ⟨sized, same⟩ := performed.rank_eq
  rw [← reported, counted]
  refine ⟨least performed, ?_, ?_⟩
  · rw [Finset.card_eq_zero, (clear _ _ _ performed).passed_eq_empty_iff positive, same, sized]
  · constructor
    · intro exactly size' a' b' performed'
      obtain ⟨sized', same'⟩ := performed'.rank_eq
      have below := performed'.skipped_le
      have above := least performed'
      rw [← reported, counted, counted] at below
      refine ((clear _ _ _ performed').losesNothing_iff positive).mpr ?_
      omega
    · intro nothing
      have exactly :=
        ((clear _ _ _ performed).losesNothing_iff positive).mp (nothing _ _ _ performed)
      rw [same] at exactly
      exact exactly.trans sized

/-- Two equations, the second without content: the rank and the one pivot skipped make two. -/
theorem solve_deficiency_pair :
    (∀ size a b, Eliminates 1 (Elimination.pair 1 2 0) (#v[3, 5].map fun r => -r) size a b →
      Elimination.ClearCut 1 a b) ∧
    ∃ correction, solve 1 (Elimination.pair 1 2 0) #v[3, 5] = .ok correction ∧
      (Elimination.pair 1 2 0).toMatrix.rank + correction.skipped = 2 := by
  have clear :
      ∀ size a b, Eliminates 1 (Elimination.pair 1 2 0) (#v[3, 5].map fun r => -r) size a b →
      Elimination.ClearCut 1 a b :=
    clearCut_pair (mul_zero 2) (by norm_num) (by norm_num) (by norm_num) (by norm_num) _
  obtain ⟨correction, solved, -, -, exactly⟩ :=
    solve_deficiency one_pos two_pos two_pos (Elimination.pair 1 2 0) #v[3, 5] clear
  refine ⟨clear, correction, solved, exactly.mpr ?_⟩
  refine Eliminates.of_square
    (Elimination.losesNothing_of_upper (Elimination.upper_pair 1 2 0) fun i small => ?_)
    (Elimination.losesNothing_of_upper (upper_gram_pair (mul_zero 2)) fun i small => ?_)
  · fin_cases i
    · simp at small
    · funext c
      fin_cases c <;> simp
  · fin_cases i
    · norm_num [gram_pair] at small
    · funext c
      fin_cases c <;> simp [gram_pair]

/-- **The order of the equations counts.** Where the equation that contains the second unknown comes
first, two pivots are skipped, although the rank falls short by one; where it comes second, one
is. -/
theorem solve_deficiency_ordered :
    (∀ size a b, Eliminates 1 (Elimination.pair 0 1 0) (#v[-1, 0].map fun r => -r) size a b →
      Elimination.ClearCut 1 a b) ∧
    (∀ size a b, Eliminates 1 (Elimination.pair 0 0 1) (#v[0, -1].map fun r => -r) size a b →
      Elimination.ClearCut 1 a b) ∧
    (Elimination.pair 0 1 0).toMatrix.rank = 1 ∧
    (∃ correction, solve 1 (Elimination.pair 0 1 0) #v[-1, 0] = .ok correction ∧
      correction.skipped = 2) ∧
    ∃ correction, solve 1 (Elimination.pair 0 0 1) #v[0, -1] = .ok correction ∧
      correction.skipped = 1 := by
  refine ⟨clearCut_pair (mul_zero 1) (by norm_num) (by norm_num) (by norm_num) (by norm_num) _,
    clearCut_pair (zero_mul 1) (by norm_num) (by norm_num) (by norm_num) (by norm_num) _, rank_pair,
    ⟨_, (solve_eq _ _ _).trans (if_neg (by omega)), ?_⟩,
      ⟨_, (solve_eq _ _ _).trans (if_neg (by omega)), ?_⟩⟩
  · rw [skipped_step_of_square, skipped_pair, skipped_gram_pair (mul_zero 1)]
    norm_num
  · rw [skipped_step_of_square, skipped_pair, skipped_gram_pair (zero_mul 1)]
    norm_num

end Correction

end PlanarSketch
