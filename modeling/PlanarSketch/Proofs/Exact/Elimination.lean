import Mathlib
import PlanarSketch.Linear.Elimination
import PlanarSketch.Proofs.Exact.Real
import PlanarSketch.Proofs.Indices

/-!
# Elimination finds the solution

Read exactly, an elimination that skips no column and has a positive tolerance finds the one
solution of its system (`eliminate_iff`). So what it answers does not depend on which rows it chose
as pivots.

The forward pass keeps the solutions of the extended matrix while it makes the columns treated so
far vanish below the diagonal (`Elimination.Reduced`). In the backward pass the unknowns found so
far are the ones that the rows from there down ask for (`Elimination.Found`).
-/

set_option autoImplicit false

namespace PlanarSketch

open BigOperators

namespace Elimination

variable {n : ℕ}

/-- A row of an extended matrix holds for given unknowns. -/
def RowHolds (a : Dense n (n + 1) ℝ) (z : Fin n → ℝ) (i : Fin n) : Prop :=
  ∑ j, a.entry i j.castSucc * z j = a.entry i (Fin.last n)

/-- Given unknowns solve the system of an extended matrix. -/
def Solves (a : Dense n (n + 1) ℝ) (z : Fin n → ℝ) : Prop := ∀ i, RowHolds a z i

theorem isSkipped_eq_false (tolerance : ℝ) (a : Dense n (n + 1) ℝ) (i : Fin n) :
    isSkipped tolerance a i = false ↔ tolerance ≤ |a.entry i i.castSucc| := by
  rw [isSkipped, Scalar.lt_eq_false_iff, Scalar.abs_eq]

theorem entry_extended (a : Dense n n ℝ) (b : Vector ℝ n) (i j : Fin n) :
    (extended a b).entry i j.castSucc = a.entry i j := by
  rw [Dense.entry, extended, Dense.get_ofFn]
  exact Vector.getElem_push_lt j.isLt

theorem entry_extended_last (a : Dense n n ℝ) (b : Vector ℝ n) (i : Fin n) :
    (extended a b).entry i (Fin.last n) = b.get i := by
  rw [Dense.entry, extended, Dense.get_ofFn]
  exact Vector.getElem_push_eq

/-! ## Exchanging rows -/

theorem entry_swapRows (a : Dense n (n + 1) ℝ) (i k r : Fin n) (j : Fin (n + 1)) :
    (swapRows a i k).entry r j = a.entry (Equiv.swap i k r) j := by
  have row : (swapRows a i k).get r = a.get (Equiv.swap i k r) := by
    rw [swapRows, Dense.get_ofFn, Equiv.swap_apply_def]
    split
    · rfl
    · split <;> rfl
  rw [Dense.entry, row, Dense.entry]

theorem solves_swapRows (a : Dense n (n + 1) ℝ) (i k : Fin n) (z : Fin n → ℝ) :
    Solves (swapRows a i k) z ↔ Solves a z := by
  refine (Equiv.swap i k).forall_congr fun {r} => ?_
  simp only [RowHolds, entry_swapRows]

theorem le_pivotRow (a : Dense n (n + 1) ℝ) (i : Fin n) : i ≤ pivotRow a i := by
  refine List.foldlRecOn (List.finRange n) _ (le_refl i) ?_
  intro held below k _
  split
  case isTrue replaced => exact Fin.le_def.mpr (Nat.le_of_lt replaced.1)
  case isFalse _ => exact below

/-! ## Clearing a column -/

theorem entry_clearBelow (a : Dense n (n + 1) ℝ) (i k : Fin n) (j : Fin (n + 1)) :
    (clearBelow a i).entry k j =
      if i.val < k.val ∧ i.val ≤ j.val then
        a.entry k j - a.entry k i.castSucc / a.entry i i.castSucc * a.entry i j
      else a.entry k j := by
  rw [clearBelow, Dense.entry, Dense.get_ofFn]
  by_cases below : i.val < k.val
  · rw [if_pos below, Dense.get_ofFn]
    simp only [below, true_and]
  · rw [if_neg below, if_neg (fun both => below both.1), Dense.entry]

/-- The first `done` columns vanish below the diagonal, and their diagonal entries do not count as
zero. -/
structure Reduced (tolerance : ℝ) (done : ℕ) (a : Dense n (n + 1) ℝ) : Prop where
  below : ∀ c k : Fin n, c.val < done → c < k → a.entry k c.castSucc = 0
  large : ∀ c : Fin n, c.val < done → tolerance ≤ |a.entry c c.castSucc|

theorem reduced_zero (tolerance : ℝ) (a : Dense n (n + 1) ℝ) : Reduced tolerance 0 a :=
  ⟨fun _ _ none => absurd none (Nat.not_lt_zero _), fun _ none => absurd none (Nat.not_lt_zero _)⟩

variable {tolerance : ℝ} {a : Dense n (n + 1) ℝ} {i k : Fin n}

/-- Exchanging two rows that are not treated yet keeps the columns treated so far. -/
theorem Reduced.swapRows (reduced : Reduced tolerance i.val a) (below : i ≤ k) :
    Reduced tolerance i.val (swapRows a i k) := by
  have above : ∀ c : Fin n, c.val < i.val → Equiv.swap i k c = c := by
    intro c before
    have ofRow : c < i := before
    exact Equiv.swap_apply_of_ne_of_ne ofRow.ne (ofRow.trans_le below).ne
  refine ⟨?_, ?_⟩
  · intro c r before under
    rw [entry_swapRows]
    refine reduced.below c _ before ?_
    rw [Equiv.swap_apply_def]
    split
    · exact (Fin.lt_def.mpr before).trans_le below
    · split
      · exact before
      · exact under
  · intro c before
    rw [entry_swapRows, above c before]
    exact reduced.large c before

/-- Left of the column that is cleared, all rows from the diagonal down vanish, so the whole row
changes by a multiple of the pivot row. -/
theorem Reduced.entry_clearBelow (reduced : Reduced tolerance i.val a) (under : i < k)
    (j : Fin (n + 1)) :
    (clearBelow a i).entry k j =
      a.entry k j - a.entry k i.castSucc / a.entry i i.castSucc * a.entry i j := by
  rw [Elimination.entry_clearBelow]
  by_cases right : i.val ≤ j.val
  · rw [if_pos ⟨under, right⟩]
  · have left : j.val < i.val := Nat.lt_of_not_le right
    have vanishes : a.entry i j = 0 :=
      reduced.below ⟨j.val, left.trans i.isLt⟩ i left left
    rw [if_neg fun both => right both.2, vanishes, mul_zero, sub_zero]

theorem entry_clearBelow_of_le (a : Dense n (n + 1) ℝ) {i k : Fin n} (above : k ≤ i)
    (j : Fin (n + 1)) :
    (clearBelow a i).entry k j = a.entry k j := by
  rw [entry_clearBelow, if_neg fun both => absurd both.1 (Nat.not_lt.mpr above)]

theorem Reduced.clearBelow (reduced : Reduced tolerance i.val a)
    (nonzero : a.entry i i.castSucc ≠ 0) (large : tolerance ≤ |a.entry i i.castSucc|) :
    Reduced tolerance (i.val + 1) (clearBelow a i) := by
  refine ⟨?_, ?_⟩
  · intro c r done under
    rcases Nat.lt_succ_iff_lt_or_eq.mp done with before | here
    · rw [Elimination.entry_clearBelow, if_neg fun both => absurd both.2 (Nat.not_le.mpr before)]
      exact reduced.below c r before under
    · obtain rfl : c = i := Fin.ext here
      rw [reduced.entry_clearBelow under, div_mul_cancel₀ _ nonzero, sub_self]
  · intro c done
    rw [entry_clearBelow_of_le a (Nat.le_of_lt_succ done)]
    rcases Nat.lt_succ_iff_lt_or_eq.mp done with before | here
    · exact reduced.large c before
    · obtain rfl : c = i := Fin.ext here
      exact large

/-- Clearing a column keeps the solutions. -/
theorem Reduced.solves_clearBelow (reduced : Reduced tolerance i.val a) (z : Fin n → ℝ) :
    Solves (Elimination.clearBelow a i) z ↔ Solves a z := by
  have kept : ∀ k ≤ i, RowHolds (Elimination.clearBelow a i) z k ↔ RowHolds a z k := by
    intro k above
    simp only [RowHolds, entry_clearBelow_of_le a above]
  -- A row below differs by a multiple of the pivot row, and the pivot row holds on both sides.
  have changed (pivot : RowHolds a z i) :
      ∀ k > i, RowHolds (Elimination.clearBelow a i) z k ↔ RowHolds a z k := by
    intro k under
    have multiple :
        ∑ j : Fin n, a.entry k i.castSucc / a.entry i i.castSucc * a.entry i j.castSucc * z j =
        a.entry k i.castSucc / a.entry i i.castSucc * a.entry i (Fin.last n) := by
      rw [← show _ = _ from pivot, Finset.mul_sum]
      exact Finset.sum_congr rfl fun j _ => mul_assoc _ _ _
    simp only [RowHolds, reduced.entry_clearBelow under, sub_mul, Finset.sum_sub_distrib, multiple,
      sub_left_inj]
  have all (pivot : RowHolds a z i) (k : Fin n) :
      RowHolds (Elimination.clearBelow a i) z k ↔ RowHolds a z k :=
    (le_or_gt k i).elim (kept k) (changed pivot k)
  constructor
  · intro solves k
    exact (all ((kept i le_rfl).mp (solves i)) k).mp (solves k)
  · intro solves k
    exact (all (solves i) k).mpr (solves k)

/-! ## The forward pass -/

theorem skipped_le_step (tolerance : ℝ) (state : State n ℝ) (i : Fin n) :
    state.skipped ≤ (step tolerance state i).skipped := by
  rw [step]
  split
  · exact Nat.le_succ _
  · exact Nat.le_refl _

/-- **A forward pass that skips nothing makes the matrix triangular and keeps the solutions.** -/
theorem forward_reduced (positive : 0 < tolerance) (m : Dense n n ℝ) (b : Vector ℝ n)
    (all : (forward tolerance m b).skipped = 0) :
    Reduced tolerance n (forward tolerance m b).matrix ∧
      ∀ z, Solves (forward tolerance m b).matrix z ↔ Solves (extended m b) z := by
  refine @foldl_finRange_induction _ n (step tolerance)
    (fun done state => state.skipped = 0 → Reduced tolerance done state.matrix ∧
      ∀ z, Solves state.matrix z ↔ Solves (extended m b) z) _ ?_ ?_ all
  · exact fun _ => ⟨reduced_zero tolerance _, fun z => Iff.rfl⟩
  · intro i state before none
    obtain ⟨reduced, same⟩ := before (Nat.le_zero.mp (none ▸ skipped_le_step tolerance state i))
    have swapped := reduced.swapRows (le_pivotRow state.matrix i)
    rw [step] at none ⊢
    split at none
    case isTrue _ => cases none
    case isFalse kept =>
      have large := (isSkipped_eq_false _ _ _).mp (Bool.eq_false_iff.mpr kept)
      have nonzero := abs_pos.mp (positive.trans_le large)
      rw [if_neg kept]
      refine ⟨swapped.clearBelow nonzero large, ?_⟩
      intro z
      rw [swapped.solves_clearBelow, solves_swapRows, same]

/-! ## The backward pass -/

theorem get_substitute_of_ne (a : Dense n (n + 1) ℝ) (x : Vector ℝ n) {i j : Fin n}
    (other : j ≠ i) :
    (substitute tolerance a x i).get j = x.get j := by
  rw [substitute]
  split
  case isTrue _ => rfl
  case isFalse _ => exact Vector.getElem_set_ne i.isLt j.isLt (Fin.val_ne_of_ne other.symm)

/-- The unknowns from `first` on are those that the rows from `first` on ask for. -/
def Found (a : Dense n (n + 1) ℝ) (first : ℕ) (x : Vector ℝ n) : Prop :=
  ∀ z : Fin n → ℝ, (∀ i : Fin n, first ≤ i.val → RowHolds a z i) ↔
    ∀ i : Fin n, first ≤ i.val → z i = x.get i

/-- A row without earlier unknowns gives its own from the later ones. -/
theorem rowHolds_iff_unknown (nonzero : a.entry i i.castSucc ≠ 0) {x : Vector ℝ n} {z : Fin n → ℝ}
    (early : ∀ j < i, a.entry i j.castSucc * z j = 0) (later : ∀ j > i, z j = x.get j) :
    RowHolds a z i ↔ z i = unknown a x i := by
  have known : Scalar.sum (((List.finRange n).filter fun j => i.val < j.val).map fun j =>
      a.entry i j.castSucc * x.get j) = ∑ j with i < j, a.entry i j.castSucc * z j := by
    rw [Scalar.sum_filter_finRange fun j => i.val < j.val]
    exact Finset.sum_congr rfl fun j after => by rw [later j (Finset.mem_filter.mp after).2]
  have split : ∑ j, a.entry i j.castSucc * z j =
      a.entry i i.castSucc * z i + ∑ j with i < j, a.entry i j.castSucc * z j := by
    rw [← Finset.sum_filter_add_sum_filter_not Finset.univ (fun j => i ≤ j),
      Finset.sum_eq_zero (fun j before => early j (not_le.mp (Finset.mem_filter.mp before).2)),
      add_zero]
    have from_i :
        Finset.univ.filter (fun j => i ≤ j) = insert i (Finset.univ.filter fun j => i < j) := by
      ext j
      simp [le_iff_lt_or_eq, or_comm, eq_comm]
    rw [from_i, Finset.sum_insert (by simp)]
  rw [RowHolds, split, unknown, known, eq_div_iff nonzero, eq_sub_iff_add_eq, mul_comm (z i)]

/-- In a triangular matrix a row gives its unknown from the later ones. -/
theorem Reduced.rowHolds_iff (positive : 0 < tolerance) (reduced : Reduced tolerance n a)
    {x : Vector ℝ n} {z : Fin n → ℝ} (later : ∀ j > i, z j = x.get j) :
    RowHolds a z i ↔ z i = unknown a x i := by
  have nonzero : a.entry i i.castSucc ≠ 0 := abs_pos.mp (positive.trans_le (reduced.large i i.isLt))
  refine rowHolds_iff_unknown nonzero (fun j before => ?_) later
  rw [reduced.below j i j.isLt before, zero_mul]

theorem found_substitute (positive : 0 < tolerance) (reduced : Reduced tolerance n a)
    {x : Vector ℝ n} (found : Found a (i.val + 1) x) :
    Found a i.val (substitute tolerance a x i) := by
  have kept : isSkipped tolerance a i = false :=
    (isSkipped_eq_false _ _ _).mpr (reduced.large i i.isLt)
  have own : (substitute tolerance a x i).get i = unknown a x i := by
    rw [substitute, kept]
    exact Vector.getElem_set_self _
  have other : ∀ j > i, (substitute tolerance a x i).get j = x.get j :=
    fun j after => get_substitute_of_ne a x after.ne'
  have from_i (holds : Fin n → Prop) :
      (∀ j : Fin n, i.val ≤ j.val → holds j) ↔
        holds i ∧ ∀ j : Fin n, i.val + 1 ≤ j.val → holds j := by
    constructor
    · exact fun all => ⟨all i le_rfl, fun j after => all j (Nat.le_of_succ_le after)⟩
    · rintro ⟨here, later⟩ j after
      rcases Nat.eq_or_lt_of_le after with same | after
      · exact Fin.ext same ▸ here
      · exact later j after
  intro z
  rw [from_i, from_i, found z]
  refine ⟨?_, ?_⟩
  · rintro ⟨row, later⟩
    refine ⟨?_, fun j after => (later j after).trans (other j after).symm⟩
    rw [own]
    exact (reduced.rowHolds_iff positive later).mp row
  · rintro ⟨here, later⟩
    have later : ∀ j > i, z j = x.get j := fun j after => (later j after).trans (other j after)
    exact ⟨(reduced.rowHolds_iff positive later).mpr (here.trans own), later⟩

/-- **The backward pass finds the one solution of a triangular matrix.** -/
theorem solves_iff_backward (positive : 0 < tolerance) (reduced : Reduced tolerance n a)
    (z : Fin n → ℝ) :
    Solves a z ↔ ∀ i, z i = (backward tolerance a).get i := by
  have none : Found a n (Vector.replicate n Scalar.zero) := by
    intro z
    exact ⟨fun _ i within => absurd i.isLt (Nat.not_lt.mpr within),
      fun _ i within => absurd i.isLt (Nat.not_lt.mpr within)⟩
  have found : Found a 0 (backward tolerance a) :=
    foldl_reverse_finRange_induction (fun first x => Found a first x) none
      fun i x found => found_substitute positive reduced found
  have all := found z
  simp only [Nat.zero_le, true_implies] at all
  exact all

end Elimination

/-- **An elimination that skips nothing finds the one solution of its system.** -/
theorem eliminate_iff {n : ℕ} {tolerance : ℝ} (positive : 0 < tolerance) {a : Dense n n ℝ}
    {b : Vector ℝ n} (all : (eliminate tolerance a b).skipped = 0) (z : Fin n → ℝ) :
    (∀ i, ∑ j, a.entry i j * z j = b.get i) ↔
      ∀ i, z i = (eliminate tolerance a b).solution.get i := by
  obtain ⟨reduced, same⟩ := Elimination.forward_reduced positive a b all
  rw [eliminate, ← Elimination.solves_iff_backward positive reduced z, same z, Elimination.Solves]
  refine forall_congr' fun i => ?_
  simp only [Elimination.RowHolds, Elimination.entry_extended, Elimination.entry_extended_last]

/-- A single equation whose coefficient is not small is not skipped. -/
theorem skipped_eliminate_one {tolerance : ℝ} {a : Dense 1 1 ℝ} (b : Vector ℝ 1)
    (large : tolerance ≤ |a.entry 0 0|) : (eliminate tolerance a b).skipped = 0 := by
  have pivot : Elimination.pivotRow (Elimination.extended a b) 0 = 0 := Subsingleton.elim _ _
  have kept : Elimination.isSkipped tolerance
      (Elimination.swapRows (Elimination.extended a b) 0 0) 0 = false := by
    rw [Elimination.isSkipped_eq_false, Elimination.entry_swapRows, Elimination.entry_extended,
      Equiv.swap_self]
    exact large
  rw [eliminate, Elimination.forward]
  show (Elimination.step tolerance ⟨Elimination.extended a b, 0⟩ 0).skipped = 0
  rw [Elimination.step, pivot, kept]
  rfl

end PlanarSketch
