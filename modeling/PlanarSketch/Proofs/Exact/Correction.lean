import Mathlib
import PlanarSketch.Linear.Correction
import PlanarSketch.Proofs.Exact.Elimination

/-!
# Corrections of renumbered systems

When the equations and the unknowns of a system are renumbered, the same step comes out, renumbered
(`Correction.solve_renumbered`), as long as no pivot is skipped on either side. Elimination may
choose other pivots, but what it finds is the one solution of its system, and a solution of one
system is a solution of the other (`eliminate_renumbered`). The scalar products that the shortest
step and the step of least squares are found from do not depend on the order of the unknowns or
equations they run over.
-/

set_option autoImplicit false

namespace PlanarSketch

open BigOperators

variable {m n m' n' : ℕ}

/-- One vector is another with its components renumbered. -/
def Dense.Permuted (places : Fin n ≃ Fin n') (x : Vector ℝ n) (x' : Vector ℝ n') : Prop :=
  ∀ i, x'.get (places i) = x.get i

/-- One matrix is another with its rows and columns renumbered. -/
def Dense.Renumbered (rows : Fin m ≃ Fin m') (columns : Fin n ≃ Fin n') (a : Dense m n ℝ)
    (a' : Dense m' n' ℝ) : Prop :=
  ∀ i j, a'.entry (rows i) (columns j) = a.entry i j

namespace Dense

variable {rows : Fin m ≃ Fin m'} {columns : Fin n ≃ Fin n'} {a : Dense m n ℝ} {a' : Dense m' n' ℝ}

theorem Permuted.dot {x y : Vector ℝ n} {x' y' : Vector ℝ n'} (first : Permuted columns x x')
    (second : Permuted columns y y') : dot x' y' = dot x y := by
  rw [dot_eq, dot_eq, ← columns.sum_comp]
  exact Finset.sum_congr rfl fun k _ => by rw [first k, second k]

theorem Renumbered.row (entries : Renumbered rows columns a a') (i : Fin m) :
    Permuted columns (a.get i) (a'.get (rows i)) :=
  entries i

theorem Renumbered.transpose (entries : Renumbered rows columns a a') :
    Renumbered columns rows a.transpose a'.transpose := by
  intro j i
  rw [entry_transpose, entry_transpose, entries i j]

theorem Renumbered.gram (entries : Renumbered rows columns a a') :
    Renumbered rows rows a.gram a'.gram := by
  intro i j
  rw [Dense.gram, Dense.gram, entry_ofFn, entry_ofFn, (entries.row i).dot (entries.row j)]

theorem Renumbered.apply (entries : Renumbered rows columns a a') {x : Vector ℝ n}
    {x' : Vector ℝ n'} (components : Permuted columns x x') :
    Permuted rows (a.apply x) (a'.apply x') := by
  intro i
  rw [Dense.apply, Dense.apply, get_ofFn, get_ofFn, (entries.row i).dot components]

end Dense

variable {tolerance : ℝ}

/-- **Eliminations of a system and of the renumbered system find the same, if neither skips a
column.** -/
theorem eliminate_renumbered (positive : 0 < tolerance) {rows columns : Fin n ≃ Fin n'}
    {a : Dense n n ℝ} {a' : Dense n' n' ℝ} {b : Vector ℝ n} {b' : Vector ℝ n'}
    (entries : Dense.Renumbered rows columns a a') (right : Dense.Permuted rows b b')
    (all : (eliminate tolerance a b).skipped = 0) (all' : (eliminate tolerance a' b').skipped = 0) :
    Dense.Permuted columns (eliminate tolerance a b).solution
      (eliminate tolerance a' b').solution := by
  have solves := (eliminate_iff positive all _).mpr fun _ => rfl
  have solves' : ∀ i, ∑ j, a'.entry i j * (eliminate tolerance a b).solution.get (columns.symm j) =
      b'.get i := by
    intro i
    obtain ⟨i, rfl⟩ := rows.surjective i
    rw [right i, ← solves i, ← columns.sum_comp]
    exact Finset.sum_congr rfl fun j _ => by rw [entries i j, columns.symm_apply_apply]
  intro j
  rw [← (eliminate_iff positive all' _).mp solves' (columns j), columns.symm_apply_apply]

namespace Correction

variable {rows : Fin m ≃ Fin m'} {columns : Fin n ≃ Fin n'} {j : Dense m n ℝ} {j' : Dense m' n' ℝ}
  {right : Vector ℝ m} {right' : Vector ℝ m'}

theorem shortest_renumbered (positive : 0 < tolerance)
    (entries : Dense.Renumbered rows columns j j') (sides : Dense.Permuted rows right right')
    (all : (shortest tolerance j right 0).skipped = 0)
    (all' : (shortest tolerance j' right' 0).skipped = 0) :
    Dense.Permuted columns (shortest tolerance j right 0).delta
      (shortest tolerance j' right' 0).delta := by
  have none : (eliminate tolerance j.gram right).skipped = 0 := (Nat.zero_max _).symm.trans all
  have none' : (eliminate tolerance j'.gram right').skipped = 0 := (Nat.zero_max _).symm.trans all'
  exact entries.transpose.apply (eliminate_renumbered positive entries.gram sides none none')

theorem leastSquares_renumbered (positive : 0 < tolerance)
    (entries : Dense.Renumbered rows columns j j') (sides : Dense.Permuted rows right right')
    (all : (leastSquares tolerance j right).skipped = 0)
    (all' : (leastSquares tolerance j' right').skipped = 0) :
    Dense.Permuted columns (leastSquares tolerance j right).delta
      (leastSquares tolerance j' right').delta :=
  eliminate_renumbered positive entries.transpose.gram (entries.transpose.apply sides) all all'

/-- A direct step that skips nothing is found by elimination alone. -/
theorem direct_of_skipped {j : Dense n n ℝ} {right : Vector ℝ n}
    (all : (direct tolerance j right).skipped = 0) :
    (eliminate tolerance j right).skipped = 0 ∧
      (direct tolerance j right).delta = (eliminate tolerance j right).solution := by
  rw [direct] at all ⊢
  split at all
  case isTrue none => exact ⟨none, by rw [if_pos none]⟩
  case isFalse some => exact absurd (Nat.le_zero.mp ((Nat.le_max_left _ _).trans all.le)) some

theorem direct_renumbered (positive : 0 < tolerance) {rows columns : Fin n ≃ Fin n'}
    {j : Dense n n ℝ} {j' : Dense n' n' ℝ} {right : Vector ℝ n} {right' : Vector ℝ n'}
    (entries : Dense.Renumbered rows columns j j') (sides : Dense.Permuted rows right right')
    (all : (direct tolerance j right).skipped = 0)
    (all' : (direct tolerance j' right').skipped = 0) :
    Dense.Permuted columns (direct tolerance j right).delta (direct tolerance j' right').delta := by
  obtain ⟨none, found⟩ := direct_of_skipped all
  obtain ⟨none', found'⟩ := direct_of_skipped all'
  rw [found, found']
  exact eliminate_renumbered positive entries sides none none'

/-- Steps of a system and of the renumbered system are the same, if neither skips a pivot. -/
theorem step_renumbered (positive : 0 < tolerance) (entries : Dense.Renumbered rows columns j j')
    (sides : Dense.Permuted rows right right') (all : (step tolerance j right).skipped = 0)
    (all' : (step tolerance j' right').skipped = 0) :
    Dense.Permuted columns (step tolerance j right).delta (step tolerance j' right').delta := by
  obtain rfl : m = m' := Fin.equiv_iff_eq.mp ⟨rows⟩
  obtain rfl : n = n' := Fin.equiv_iff_eq.mp ⟨columns⟩
  by_cases square : m = n
  · subst square
    simp only [step, ↓reduceDIte] at all all' ⊢
    exact direct_renumbered positive entries sides all all'
  · simp only [step, square, ↓reduceDIte] at all all' ⊢
    by_cases tall : n < m
    · simp only [tall, ↓reduceIte] at all all' ⊢
      exact leastSquares_renumbered positive entries sides all all'
    · simp only [tall, ↓reduceIte] at all all' ⊢
      exact shortest_renumbered positive entries sides all all'

/-- Read exactly, a correction is missing only when there are no equations or no unknowns. -/
theorem solve_eq (tolerance : ℝ) (j : Dense m n ℝ) (residuals : Vector ℝ m) :
    solve tolerance j residuals =
      if m = 0 ∨ n = 0 then .error (.empty m n) else .ok
        (step tolerance j (residuals.map fun r => -r)) := by
  rw [solve]
  simp

/-- **Corrections of a system and of the renumbered system.** Both are missing for the same reason,
or both are there and are the same step, if neither skips a pivot. -/
theorem solve_renumbered (positive : 0 < tolerance) (entries : Dense.Renumbered rows columns j j')
    {residuals : Vector ℝ m} {residuals' : Vector ℝ m'}
    (sides : Dense.Permuted rows residuals residuals') :
    (∃ cause, solve tolerance j residuals = .error cause ∧
      solve tolerance j' residuals' = .error cause) ∨
      ∃ correction correction', solve tolerance j residuals = .ok correction ∧
        solve tolerance j' residuals' = .ok correction' ∧
        (correction.skipped = 0 → correction'.skipped = 0 →
          Dense.Permuted columns correction.delta correction'.delta) := by
  obtain rfl : m = m' := Fin.equiv_iff_eq.mp ⟨rows⟩
  obtain rfl : n = n' := Fin.equiv_iff_eq.mp ⟨columns⟩
  rw [solve_eq, solve_eq]
  by_cases empty : m = 0 ∨ n = 0
  · exact .inl ⟨.empty m n, if_pos empty, if_pos empty⟩
  · refine .inr ⟨_, _, if_neg empty, if_neg empty, step_renumbered positive entries ?_⟩
    intro i
    rw [Dense.get_map, Dense.get_map, sides i]

/-- A single equation with a derivative that is not small skips nothing. -/
theorem skipped_step_of_one {m n : ℕ} (one : m = 1) (wide : m < n) {tolerance : ℝ} {j : Dense m n ℝ}
    (right : Vector ℝ m) {i : Fin m} {c : Fin n} (large : tolerance ≤ j.entry i c * j.entry i c) :
    (step tolerance j right).skipped = 0 := by
  subst one
  obtain rfl : i = 0 := Subsingleton.elim _ _
  have square : (∑ k, j.entry 0 k * j.entry 0 k) = j.gram.entry 0 0 := by
    rw [Dense.gram, Dense.entry_ofFn, Dense.dot_eq]
    rfl
  have term : j.entry 0 c * j.entry 0 c ≤ j.gram.entry 0 0 := by
    rw [← square]
    exact Finset.single_le_sum (f := fun k => j.entry 0 k * j.entry 0 k)
      (fun k _ => mul_self_nonneg _) (Finset.mem_univ c)
  rw [step, dif_neg wide.ne, if_neg wide.asymm, shortest]
  exact (Nat.zero_max _).trans (skipped_eliminate_one right
    ((large.trans term).trans (le_abs_self _)))

end Correction

end PlanarSketch
