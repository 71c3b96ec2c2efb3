import Mathlib
import PlanarSketch.Proofs.Exact.Pivots

/-!
# Equations that elimination loses

When a column is skipped, the row at the diagonal is passed over with it, whatever it still says
about later unknowns. Read exactly, and as long as no entry that a pivot is chosen from is small
without being zero (`Elimination.ClearCut`), the forward pass is an invertible change of rows
(`Elimination.ClearCut.exists_change`). So nothing is lost (`Elimination.LosesNothing`) exactly when
the rows passed over are combinations of the others, which is when the columns skipped are as many
as the rank falls short (`Elimination.ClearCut.losesNothing_iff`). That is also exactly when
elimination solves every system that has a solution (`eliminate_solvable_iff`), and not every matrix
is of that kind (`eliminate_loses_row`).

The pivots depend on the matrix alone (`Elimination.passed_eq`), so whether something is lost does,
too.
-/

set_option autoImplicit false

namespace PlanarSketch

open Matrix

variable {n : ℕ} {tolerance : ℝ}

namespace Elimination

/-- Whenever a column comes up, its entries from the diagonal down are all zero, or one of them
counts. -/
def ClearCut (tolerance : ℝ) (a : Dense n n ℝ) (b : Vector ℝ n) : Prop :=
  ∀ c : Fin n, (∀ k ≥ c, (reached tolerance a b c).matrix.entry k c.castSucc = 0) ∨
    ∃ k ≥ c, tolerance ≤ |(reached tolerance a b c).matrix.entry k c.castSucc|

/-- Every row without a pivot that is left is a combination of the rows with one. -/
def LosesNothing (tolerance : ℝ) (a : Dense n n ℝ) (b : Vector ℝ n) : Prop :=
  ∀ i ∈ passed tolerance a b, (coefficients (forward tolerance a b).matrix).row i ∈
    Submodule.span ℝ ((coefficients (forward tolerance a b).matrix).row ''
      {k | k ∉ passed tolerance a b})

variable {a : Dense n n ℝ} {b : Vector ℝ n}

/-! ## The largest entry of a column -/

/-- The pivot is the largest entry of its column from the diagonal down. -/
theorem le_brought (m : Dense n (n + 1) ℝ) {i k : Fin n} (below : i ≤ k) :
    |m.entry k i.castSucc| ≤ |(brought m i).entry i i.castSucc| := by
  let choose (held k : Fin n) : Fin n :=
    if i.val < k.val ∧ replaces (Scalar.abs (m.entry k i.castSucc))
      (Scalar.abs (m.entry held i.castSucc))
    then k else held
  have chosen (held k : Fin n) : |m.entry held i.castSucc| ≤ |m.entry (choose held k) i.castSucc| ∧
      (i < k → |m.entry k i.castSucc| ≤ |m.entry (choose held k) i.castSucc|) := by
    have replaced :
        replaces (Scalar.abs (m.entry k i.castSucc)) (Scalar.abs (m.entry held i.castSucc)) = true ↔
          |m.entry held i.castSucc| < |m.entry k i.castSucc| := by
      simp [replaces, Scalar.isUndefined, Scalar.same]
    by_cases taken : i.val < k.val ∧
        replaces (Scalar.abs (m.entry k i.castSucc)) (Scalar.abs (m.entry held i.castSucc)) = true
    · rw [show choose held k = k from if_pos taken]
      exact ⟨(replaced.mp taken.2).le, fun _ => le_rfl⟩
    · rw [show choose held k = held from if_neg taken]
      exact ⟨le_rfl, fun under => not_lt.mp fun larger => taken ⟨under, replaced.mpr larger⟩⟩
  have most (candidates : List (Fin n)) (held : Fin n) :
      |m.entry held i.castSucc| ≤ |m.entry (candidates.foldl choose held) i.castSucc| ∧
        ∀ k ∈ candidates, i < k →
          |m.entry k i.castSucc| ≤ |m.entry (candidates.foldl choose held) i.castSucc| := by
    induction candidates generalizing held with
    | nil => exact ⟨le_rfl, by simp⟩
    | cons first rest ih =>
        obtain ⟨own, others⟩ := ih (choose held first)
        refine ⟨(chosen held first).1.trans own, ?_⟩
        rintro k (_ | ⟨_, later⟩) under
        · exact ((chosen held first).2 under).trans own
        · exact others k later under
  rw [brought, entry_swapRows, Equiv.swap_apply_left]
  rcases below.eq_or_lt with rfl | under
  · exact (most _ _).1
  · exact (most _ i).2 k (List.mem_finRange k) under

/-- An exchange of rows from the diagonal down keeps them from the diagonal down. -/
theorem le_swap_pivotRow (m : Dense n (n + 1) ℝ) {i k : Fin n} (below : i ≤ k) :
    i ≤ Equiv.swap i (pivotRow m i) k := by
  rw [Equiv.swap_apply_def]
  split
  case isTrue _ => exact le_pivotRow m i
  case isFalse _ =>
    split
    case isTrue _ => exact le_rfl
    case isFalse _ => exact below

/-- The rows with a pivot are independent. -/
theorem linearIndependent_pivotRows (positive : 0 < tolerance) (a : Dense n n ℝ) (b : Vector ℝ n) :
    LinearIndependent ℝ fun k : {k // k ∉ passed tolerance a b} =>
      (coefficients (forward tolerance a b).matrix).row k.val :=
  LinearIndependent.of_comp (LinearMap.funLeft ℝ ℝ
    (Subtype.val : {k // k ∉ passed tolerance a b} → Fin n))
    (linearIndependent_rows_iff_isUnit.mpr (isUnit_pivots positive a b))

namespace ClearCut

/-- A column that is skipped has nothing left from the diagonal down. -/
theorem vanishes (clear : ClearCut tolerance a b) {c : Fin n} (skipped : c ∈ passed tolerance a b)
    {k : Fin n} (below : c ≤ k) :
    (brought (reached tolerance a b c).matrix c).entry k c.castSucc = 0 := by
  rw [brought, entry_swapRows]
  refine (clear c).resolve_right ?_ _ (le_swap_pivotRow _ below)
  rintro ⟨k, below, large⟩
  exact absurd (mem_passed.mp skipped) (not_lt.mpr (large.trans (le_brought _ below)))

theorem cleared (positive : 0 < tolerance) (clear : ClearCut tolerance a b) (c : Fin n) :
    Cleared (forward tolerance a b).matrix c := by
  by_cases skipped : c ∈ passed tolerance a b
  · refine cleared_forward_of_step fun k below => ?_
    rw [step_of_small (mem_passed.mp skipped)]
    exact clear.vanishes skipped (le_of_lt below)
  · exact cleared_forward positive skipped

theorem diagonal (clear : ClearCut tolerance a b) {c : Fin n} (skipped : c ∈ passed tolerance a b) :
    (forward tolerance a b).matrix.entry c c.castSucc = 0 := by
  rw [← reached_all, entry_reached _ n le_rfl c.isLt, clear.vanishes skipped le_rfl]

/-- **The forward pass is an invertible change of rows.** -/
theorem exists_change (positive : 0 < tolerance) (clear : ClearCut tolerance a b) :
    ∃ change : (Fin n → ℝ) ≃ₗ[ℝ] (Fin n → ℝ),
      rightSide (forward tolerance a b).matrix = change b.get ∧
      ∀ z, coefficients (forward tolerance a b).matrix *ᵥ z = change (a.toMatrix *ᵥ z) := by
  obtain ⟨change, right, columns⟩ := Elimination.exists_change tolerance a b
  have product : coefficients (forward tolerance a b).matrix =
      LinearMap.toMatrix' change.toLinearMap * a.toMatrix := by
    ext k c
    have column := columns c (clear.cleared positive c)
    rw [← LinearEquiv.coe_coe, ← LinearMap.toMatrix'_mulVec] at column
    exact congrFun column k
  refine ⟨change, right, fun z => ?_⟩
  rw [product, ← mulVec_mulVec, LinearMap.toMatrix'_mulVec, LinearEquiv.coe_coe]

theorem rank_eq (positive : 0 < tolerance) (clear : ClearCut tolerance a b) :
    (coefficients (forward tolerance a b).matrix).rank = a.toMatrix.rank := by
  obtain ⟨change, -, same⟩ := clear.exists_change positive
  have maps : (coefficients (forward tolerance a b).matrix).mulVecLin =
      change.toLinearMap ∘ₗ a.toMatrix.mulVecLin := LinearMap.ext same
  rw [rank, maps, LinearMap.range_comp, LinearEquiv.finrank_map_eq, rank]

/-- Nothing is skipped exactly when the matrix has full rank. -/
theorem passed_eq_empty_iff (positive : 0 < tolerance) (clear : ClearCut tolerance a b) :
    passed tolerance a b = ∅ ↔ a.toMatrix.rank = n := by
  constructor
  · intro none
    have bound := le_rank_add_card_passed positive a b
    rw [none, Finset.card_empty, add_zero] at bound
    exact le_antisymm a.toMatrix.rank_le_width bound
  · intro full
    have triangular : (coefficients (forward tolerance a b).matrix).IsUpperTriangular :=
      fun k c below => clear.cleared positive c k below
    have independent : LinearIndependent ℝ (coefficients (forward tolerance a b).matrix).row := by
      rw [linearIndependent_iff_card_eq_finrank_span, Set.finrank, ← rank_eq_finrank_span_row,
        clear.rank_eq positive, full, Fintype.card_fin]
    have invertible :=
      (isUnit_iff_isUnit_det _).mp (linearIndependent_rows_iff_isUnit.mp independent)
    rw [det_of_isUpperTriangular triangular, isUnit_iff_ne_zero,
      Finset.prod_ne_zero_iff] at invertible
    exact Finset.eq_empty_of_forall_notMem fun c skipped =>
      invertible c (Finset.mem_univ c) (clear.diagonal skipped)

/-- **Nothing is lost exactly when the columns skipped are as many as the rank falls short.** -/
theorem losesNothing_iff (positive : 0 < tolerance) (clear : ClearCut tolerance a b) :
    LosesNothing tolerance a b ↔ a.toMatrix.rank + (passed tolerance a b).card = n := by
  set rows := (coefficients (forward tolerance a b).matrix).row
  let kept := Submodule.span ℝ (Set.range fun k : {k // k ∉ passed tolerance a b} => rows k.val)
  let all := Submodule.span ℝ (Set.range rows)
  have within : kept ≤ all := Submodule.span_mono (Set.range_comp_subset_range Subtype.val rows)
  have dimKept : Module.finrank ℝ kept = n - (passed tolerance a b).card := by
    rw [finrank_span_eq_card (linearIndependent_pivotRows positive a b), Fintype.card_subtype_compl,
      Fintype.card_fin, Fintype.card_coe]
  have dimAll : Module.finrank ℝ all = a.toMatrix.rank := by
    rw [← clear.rank_eq positive, rank_eq_finrank_span_row]
  have few : (passed tolerance a b).card ≤ n := by
    simpa using Finset.card_le_univ (passed tolerance a b)
  have spanned : LosesNothing tolerance a b ↔ all ≤ kept := by
    rw [LosesNothing, Set.image_eq_range, Submodule.span_le, Set.range_subset_iff]
    refine forall_congr' fun i => ⟨fun lost => ?_, fun every _ => every⟩
    by_cases skipped : i ∈ passed tolerance a b
    · exact lost skipped
    · exact Submodule.subset_span ⟨⟨i, skipped⟩, rfl⟩
  rw [spanned, ← dimAll]
  constructor
  · intro above
    rw [le_antisymm above within, dimKept, Nat.sub_add_cancel few]
  · intro counted
    exact (Submodule.eq_of_le_of_finrank_le within (by omega)).ge

end ClearCut

/-! ## Systems that have a solution -/

theorem rowHolds_iff_mulVec (m : Dense n (n + 1) ℝ) (z : Fin n → ℝ) (i : Fin n) :
    RowHolds m z i ↔ (coefficients m *ᵥ z) i = rightSide m i :=
  Iff.rfl

/-- Unknowns in skipped columns are zero. -/
theorem get_backward_of_passed {c : Fin n} (skipped : c ∈ passed tolerance a b) :
    (backward tolerance (forward tolerance a b).matrix).get c = 0 := by
  rw [get_backward, if_pos (isSkipped_forward_iff.mpr skipped)]

/-- The rows with a pivot hold for what the backward pass finds. -/
theorem rowHolds_backward (positive : 0 < tolerance) {i : Fin n} (kept : i ∉ passed tolerance a b) :
    RowHolds (forward tolerance a b).matrix
      (backward tolerance (forward tolerance a b).matrix).get i := by
  refine (rowHolds_iff_unknown ?_ ?_ fun _ _ => rfl).mpr ?_
  · exact abs_pos.mp (positive.trans_le (le_of_notMem_passed kept))
  · intro j before
    by_cases skipped : j ∈ passed tolerance a b
    · rw [get_backward_of_passed skipped, mul_zero]
    · rw [cleared_forward positive skipped i before, zero_mul]
  · rw [get_backward, if_neg (mt isSkipped_forward_iff.mp kept)]

/-- **If nothing is lost, elimination solves a system that has a solution.** -/
theorem LosesNothing.solves (positive : 0 < tolerance) (clear : ClearCut tolerance a b)
    (nothing : LosesNothing tolerance a b) (solvable : ∃ z, a.toMatrix *ᵥ z = b.get) :
    a.toMatrix *ᵥ (eliminate tolerance a b).solution.get = b.get := by
  obtain ⟨change, right, left⟩ := clear.exists_change positive
  obtain ⟨z, solution⟩ := solvable
  set x := (eliminate tolerance a b).solution.get
  set rows := coefficients (forward tolerance a b).matrix
  have solution : rows *ᵥ z = rightSide (forward tolerance a b).matrix := by
    rw [left, solution, right]
  -- The difference from a solution is orthogonal to the rows with a pivot, and so to all rows.
  have kept (k : Fin n) (pivot : k ∉ passed tolerance a b) : rows.row k ⬝ᵥ (x - z) = 0 := by
    have holds : (rows *ᵥ x) k = _ :=
      (rowHolds_iff_mulVec _ _ _).mp (rowHolds_backward positive pivot)
    rw [dotProduct_sub, sub_eq_zero]
    exact holds.trans (congrFun solution k).symm
  have spanned (v : Fin n → ℝ) (member : v ∈ Submodule.span ℝ
    (rows.row '' {k | k ∉ passed tolerance a b})) :
      v ⬝ᵥ (x - z) = 0 := by
    induction member using Submodule.span_induction with
    | mem v row =>
        obtain ⟨k, pivot, rfl⟩ := row
        exact kept k pivot
    | zero => exact zero_dotProduct _
    | add v w _ _ first second => rw [add_dotProduct, first, second, add_zero]
    | smul c v _ here => rw [smul_dotProduct, here, smul_zero]
  have all : rows *ᵥ (x - z) = 0 := by
    funext i
    by_cases skipped : i ∈ passed tolerance a b
    · exact spanned _ (nothing i skipped)
    · exact kept i skipped
  rw [mulVec_sub, sub_eq_zero, solution, right, left] at all
  exact change.injective all

/-! ## What does not depend on the right side -/

theorem coefficients_step (tolerance : ℝ) {state state' : State n ℝ} (i : Fin n)
    (same : coefficients state.matrix = coefficients state'.matrix) :
    coefficients (brought state.matrix i) = coefficients (brought state'.matrix i) ∧
      coefficients (step tolerance state i).matrix =
        coefficients (step tolerance state' i).matrix := by
  have entry (k j : Fin n) : state.matrix.entry k j.castSucc = state'.matrix.entry k j.castSucc :=
    congrFun (congrFun same k) j
  have pivot : pivotRow state.matrix i = pivotRow state'.matrix i := by simp only [pivotRow, entry]
  have exchanged (k j : Fin n) :
      (brought state.matrix i).entry k j.castSucc =
        (brought state'.matrix i).entry k j.castSucc := by
    rw [brought, brought, entry_swapRows, entry_swapRows, pivot, entry]
  refine ⟨Matrix.ext exchanged, Matrix.ext fun k j => ?_⟩
  show (step tolerance state i).matrix.entry k j.castSucc =
    (step tolerance state' i).matrix.entry k j.castSucc
  rcases lt_or_ge |(brought state.matrix i).entry i i.castSucc| tolerance with small | large
  · rw [step_of_small small, step_of_small (exchanged i i ▸ small), exchanged]
  · rw [step_of_large large, step_of_large (exchanged i i ▸ large), entry_clearBelow,
      entry_clearBelow]
    simp only [exchanged]

/-- The coefficients on the way do not depend on the right side. -/
theorem coefficients_reached (tolerance : ℝ) (a : Dense n n ℝ) (b b' : Vector ℝ n) :
    ∀ count ≤ n, coefficients (reached tolerance a b count).matrix =
      coefficients (reached tolerance a b' count).matrix := by
  refine reached_induction (fun count state =>
    coefficients state.matrix = coefficients (reached tolerance a b' count).matrix) ?_ ?_
  · rw [reached_zero, coefficients_extended, coefficients_extended]
  · intro i same
    rw [reached_succ]
    exact (coefficients_step tolerance i same).2

theorem passed_eq (b b' : Vector ℝ n) : passed tolerance a b = passed tolerance a b' := by
  ext c
  have brought :=
    (coefficients_step tolerance c (coefficients_reached tolerance a b b' c c.isLt.le)).1
  have entry := congrFun (congrFun brought c) c
  rw [mem_passed, mem_passed]
  exact iff_of_eq (congrArg (fun x => |x| < tolerance) entry)

theorem ClearCut.other (clear : ClearCut tolerance a b) (b' : Vector ℝ n) :
    ClearCut tolerance a b' := by
  intro c
  have entry (k : Fin n) : (reached tolerance a b c).matrix.entry k c.castSucc =
      (reached tolerance a b' c).matrix.entry k c.castSucc :=
    congrFun (congrFun (coefficients_reached tolerance a b b' c c.isLt.le) k) c
  simpa only [entry] using clear c

theorem LosesNothing.other (nothing : LosesNothing tolerance a b) (b' : Vector ℝ n) :
    LosesNothing tolerance a b' := by
  have same :
      coefficients (forward tolerance a b').matrix =
        coefficients (forward tolerance a b).matrix := by
    rw [← reached_all, ← reached_all, coefficients_reached tolerance a b' b n le_rfl]
  rw [LosesNothing, passed_eq b' b, same]
  exact nothing

/-- If elimination solves every system that has a solution, nothing is lost. -/
theorem losesNothing_of_solves (positive : 0 < tolerance) (clear : ClearCut tolerance a b)
    (solves : ∀ b', (∃ z, a.toMatrix *ᵥ z = b'.get) →
      a.toMatrix *ᵥ (eliminate tolerance a b').solution.get = b'.get) :
    LosesNothing tolerance a b := by
  have reachable : LinearMap.range a.toMatrix.mulVecLin ≤
      Submodule.span ℝ (Set.range fun c : {c // c ∉ passed tolerance a b} =>
        a.toMatrix.col c.val) := by
    rintro _ ⟨z, rfl⟩
    let b' : Vector ℝ n := Vector.ofFn (a.toMatrix *ᵥ z)
    have get : b'.get = a.toMatrix *ᵥ z := funext fun i => Dense.get_ofFn _ i
    -- What is found uses no skipped column, so what it reaches is combined from the others.
    rw [mulVecLin_apply, ← get, ← solves b' ⟨z, get.symm⟩, mulVec_eq_sum]
    refine Submodule.sum_mem _ fun c _ => ?_
    rw [op_smul_eq_smul]
    by_cases skipped : c ∈ passed tolerance a b
    · have zero : (eliminate tolerance a b').solution.get c = 0 :=
        get_backward_of_passed (passed_eq b b' ▸ skipped)
      rw [zero, zero_smul]
      exact Submodule.zero_mem _
    · exact Submodule.smul_mem _ _ (Submodule.subset_span ⟨⟨c, skipped⟩, rfl⟩)
  have bound := (Submodule.finrank_mono reachable).trans (finrank_range_le_card _)
  rw [← rank, Fintype.card_subtype_compl, Fintype.card_fin, Fintype.card_coe] at bound
  have above := le_rank_add_card_passed positive a b
  have few : (passed tolerance a b).card ≤ n := by
    simpa using Finset.card_le_univ (passed tolerance a b)
  rw [clear.losesNothing_iff positive]
  omega

/-! ## Triangular matrices -/

theorem clearCut_of_upper (upper : ∀ k c : Fin n, c < k → a.entry k c = 0)
    (diagonal : ∀ c, a.entry c c = 0 ∨ tolerance ≤ |a.entry c c|) : ClearCut tolerance a b := by
  intro c
  rw [matrix_reached_of_upper upper c c.isLt.le]
  simp only [entry_extended]
  rcases diagonal c with zero | large
  · refine .inl fun k below => ?_
    rcases below.eq_or_lt with rfl | under
    · exact zero
    · exact upper k c under
  · exact .inr ⟨c, le_rfl, large⟩

/-- Of a triangular matrix nothing is lost when the rows that are skipped are zero. -/
theorem losesNothing_of_upper (upper : ∀ k c : Fin n, c < k → a.entry k c = 0)
    (empty : ∀ i, |a.entry i i| < tolerance → a.toMatrix.row i = 0) :
    LosesNothing tolerance a b := by
  have same : coefficients (forward tolerance a b).matrix = a.toMatrix := by
    rw [← reached_all, matrix_reached_of_upper upper n le_rfl, coefficients_extended]
  intro i skipped
  rw [same, empty i ((mem_passed_of_upper upper).mp skipped)]
  exact Submodule.zero_mem _

end Elimination

/-- **Elimination solves every system that has a solution exactly when it loses no row.** -/
theorem eliminate_solvable_iff (positive : 0 < tolerance) {a : Dense n n ℝ} {b₀ : Vector ℝ n}
    (clear : Elimination.ClearCut tolerance a b₀) :
    (∀ b, (∃ z, a.toMatrix *ᵥ z = b.get) →
      a.toMatrix *ᵥ (eliminate tolerance a b).solution.get = b.get ∧
        ∀ c ∈ Elimination.passed tolerance a b, (eliminate tolerance a b).solution.get c = 0) ↔
      Elimination.LosesNothing tolerance a b₀ := by
  constructor
  · intro solves
    exact Elimination.losesNothing_of_solves positive clear fun b solvable => (solves b solvable).1
  · intro nothing b solvable
    exact ⟨(nothing.other b).solves positive (clear.other b) solvable,
      fun c skipped => Elimination.get_backward_of_passed skipped⟩

/-- Of two equations with a solution the second has no content; its column is skipped, and both hold
for what is found. -/
theorem eliminate_solvable_pair :
    Elimination.ClearCut 1 (Elimination.pair 1 2 0) #v[0, 0] ∧
      (Elimination.pair 1 2 0).toMatrix *ᵥ
        (eliminate 1 (Elimination.pair 1 2 0) #v[3, 0]).solution.get =
        (#v[3, 0] : Vector ℝ 2).get ∧
      ∀ c ∈ Elimination.passed 1 (Elimination.pair 1 2 0) #v[3, 0],
        (eliminate 1 (Elimination.pair 1 2 0) #v[3, 0]).solution.get c = 0 := by
  have upper := Elimination.upper_pair 1 2 0
  have clear : Elimination.ClearCut 1 (Elimination.pair 1 2 0) #v[0, 0] := by
    refine Elimination.clearCut_of_upper upper fun c => ?_
    fin_cases c <;> simp
  have nothing : Elimination.LosesNothing 1 (Elimination.pair 1 2 0) #v[0, 0] := by
    refine Elimination.losesNothing_of_upper upper fun i small => ?_
    fin_cases i
    · simp at small
    · funext c
      fin_cases c <;> simp
  refine ⟨clear, (eliminate_solvable_iff one_pos clear).mpr nothing #v[3, 0] ⟨![3, 0], ?_⟩⟩
  rw [Elimination.toMatrix_pair]
  funext i
  fin_cases i <;> simp [Matrix.mulVec, Vector.get]

/-- **A system with a solution that is not solved.** The first equation does not contain the first
unknown and is passed over with its column; the second has no content and is passed over with the
other column. So nothing is left to give the second unknown, which should be one. -/
theorem eliminate_loses_row :
    Elimination.ClearCut 1 (Elimination.pair 0 1 0) #v[1, 0] ∧
      (Elimination.pair 0 1 0).toMatrix *ᵥ ![0, 1] = (#v[1, 0] : Vector ℝ 2).get ∧
      (Elimination.pair 0 1 0).toMatrix *ᵥ
        (eliminate 1 (Elimination.pair 0 1 0) #v[1, 0]).solution.get ≠
        (#v[1, 0] : Vector ℝ 2).get := by
  have upper := Elimination.upper_pair 0 1 0
  refine ⟨Elimination.clearCut_of_upper upper fun c => ?_, ?_, fun solves => ?_⟩
  · fin_cases c <;> simp
  · rw [Elimination.toMatrix_pair]
    funext i
    fin_cases i <;> simp [Matrix.mulVec, Vector.get]
  · have zero : (eliminate 1 (Elimination.pair 0 1 0) #v[1, 0]).solution.get 1 = 0 := by
      refine Elimination.get_backward_of_passed ((Elimination.mem_passed_of_upper upper).mpr ?_)
      simp
    have first : _ = (1 : ℝ) := congrFun solves 0
    rw [Elimination.toMatrix_pair] at first
    simp [Matrix.mulVec, dotProduct, zero] at first

end PlanarSketch
