import Mathlib
import PlanarSketch.Proofs.Exact.FullRank

/-!
# Columns with and without a pivot

Read exactly, an elimination with a positive tolerance finds at least as many pivots as it skips
short of the rank of its matrix, leaves the unknowns of the skipped columns at zero, and, when it
skips none, finds the one solution (`eliminate_pivots`).

The forward pass is followed column by column (`Elimination.reached`). When a column comes up, the
row with its largest entry is brought to the diagonal (`Elimination.brought`), and the rows down to
the diagonal do not change any more. So a column that is skipped then (`Elimination.passed`) is
skipped by the backward pass, too. A column with a pivot is cleared below it and stays so
(`Elimination.cleared_forward`).

Entries left of a skipped column are not cleared, and later rows are changed only from their own
column on. So what the pass does is an invertible change of rows on the cleared columns only
(`Elimination.exists_change`). That is enough for the rank: the columns with a pivot, cut to the
rows with a pivot, are triangular.
-/

set_option autoImplicit false

namespace PlanarSketch

open Matrix

variable {n : ℕ} {tolerance : ℝ}

namespace Elimination

/-! ## The forward pass, column by column -/

/-- The forward pass after its first columns, `count` of them. -/
noncomputable def reached (tolerance : ℝ) (a : Dense n n ℝ) (b : Vector ℝ n) (count : ℕ) :
    State n ℝ :=
  ((List.finRange n).take count).foldl (step tolerance) ⟨extended a b, 0⟩

/-- A matrix with the pivot row of a column brought to the diagonal. -/
noncomputable def brought (m : Dense n (n + 1) ℝ) (i : Fin n) : Dense n (n + 1) ℝ :=
  swapRows m i (pivotRow m i)

/-- The columns that the forward pass skips. -/
noncomputable def passed (tolerance : ℝ) (a : Dense n n ℝ) (b : Vector ℝ n) : Finset (Fin n) :=
  Finset.univ.filter fun c =>
    isSkipped tolerance (brought (reached tolerance a b c).matrix c) c = true

variable {a : Dense n n ℝ} {b : Vector ℝ n}

@[simp] theorem reached_zero : reached tolerance a b 0 = ⟨extended a b, 0⟩ := rfl

theorem reached_succ (i : Fin n) :
    reached tolerance a b (i.val + 1) = step tolerance (reached tolerance a b i) i := by
  have here : i.val < (List.finRange n).length := by simp
  rw [reached, List.take_succ_eq_append_getElem here, List.foldl_append, List.getElem_finRange]
  rfl

theorem reached_all : reached tolerance a b n = forward tolerance a b := by
  rw [reached, List.take_of_length_le (List.length_finRange).le]
  rfl

/-- What holds at the start and is kept by each column holds throughout the forward pass. -/
theorem reached_induction (holds : ℕ → State n ℝ → Prop) (first : holds 0 ⟨extended a b, 0⟩)
    (next : ∀ i : Fin n, holds i (reached tolerance a b i) →
      holds (i + 1) (step tolerance (reached tolerance a b i) i)) :
    ∀ count ≤ n, holds count (reached tolerance a b count) := by
  intro count
  induction count with
  | zero => exact fun _ => first
  | succ k ih =>
      intro within
      rw [reached_succ ⟨k, within⟩]
      exact next ⟨k, within⟩ (ih (Nat.le_of_succ_le within))

theorem mem_passed {c : Fin n} :
    c ∈ passed tolerance a b ↔
      |(brought (reached tolerance a b c).matrix c).entry c c.castSucc| < tolerance := by
  rw [passed, Finset.mem_filter, isSkipped, Scalar.lt_iff, Scalar.abs_eq]
  exact and_iff_right (Finset.mem_univ c)

/-! ## One column -/

section Step

variable {state : State n ℝ} {c i : Fin n}

theorem step_of_small (small : |(brought state.matrix i).entry i i.castSucc| < tolerance) :
    step tolerance state i = ⟨brought state.matrix i, state.skipped + 1⟩ :=
  if_pos ((Scalar.lt_iff _ _).mpr small)

theorem step_of_large (large : tolerance ≤ |(brought state.matrix i).entry i i.castSucc|) :
    step tolerance state i = ⟨clearBelow (brought state.matrix i) i, state.skipped⟩ :=
  if_neg (Bool.eq_false_iff.mp ((isSkipped_eq_false _ _ _).mpr large))

/-- An exchange of rows from the diagonal down keeps the rows above it above it. -/
theorem lt_swap_pivotRow (m : Dense n (n + 1) ℝ) (before : c < i) (k : Fin n) :
    c < Equiv.swap i (pivotRow m i) k ↔ c < k := by
  have pivot : c < pivotRow m i := before.trans_le (le_pivotRow m i)
  rw [Equiv.swap_apply_def]
  split
  case isTrue here => exact iff_of_true pivot (here ▸ before)
  case isFalse _ =>
    split
    case isTrue here => exact iff_of_true before (here ▸ pivot)
    case isFalse _ => rfl

theorem entry_brought_of_lt (m : Dense n (n + 1) ℝ) (above : c < i) (j : Fin (n + 1)) :
    (brought m i).entry c j = m.entry c j := by
  rw [brought, entry_swapRows,
    Equiv.swap_apply_of_ne_of_ne above.ne (above.trans_le (le_pivotRow m i)).ne]

/-- Rows above the diagonal stay as they are. -/
theorem entry_step_of_lt (above : c < i) (j : Fin (n + 1)) :
    (step tolerance state i).matrix.entry c j = state.matrix.entry c j := by
  rw [← entry_brought_of_lt state.matrix above j]
  rcases lt_or_ge |(brought state.matrix i).entry i i.castSucc| tolerance with small | large
  · rw [step_of_small small]
  · rw [step_of_large large, entry_clearBelow_of_le _ above.le]

/-- The row brought to the diagonal stays as it is. -/
theorem entry_step_self (j : Fin (n + 1)) :
    (step tolerance state i).matrix.entry i j = (brought state.matrix i).entry i j := by
  rcases lt_or_ge |(brought state.matrix i).entry i i.castSucc| tolerance with small | large
  · rw [step_of_small small]
  · rw [step_of_large large, entry_clearBelow_of_le _ le_rfl]

/-- Left of the diagonal rows are only exchanged. -/
theorem entry_step_left (left : c < i) (k : Fin n) :
    (step tolerance state i).matrix.entry k c.castSucc =
      state.matrix.entry (Equiv.swap i (pivotRow state.matrix i) k) c.castSucc := by
  rw [← entry_swapRows, ← brought]
  rcases lt_or_ge |(brought state.matrix i).entry i i.castSucc| tolerance with small | large
  · rw [step_of_small small]
  · rw [step_of_large large, entry_clearBelow,
      if_neg fun both => absurd both.2 (Nat.not_le.mpr left)]

/-- All entries of a column below the diagonal vanish. -/
def Cleared (m : Dense n (n + 1) ℝ) (c : Fin n) : Prop := ∀ k > c, m.entry k c.castSucc = 0

theorem cleared_step_iff (left : c < i) :
    Cleared (step tolerance state i).matrix c ↔ Cleared state.matrix c := by
  refine (Equiv.swap i (pivotRow state.matrix i)).forall_congr fun {k} => ?_
  rw [entry_step_left left, gt_iff_lt, gt_iff_lt, lt_swap_pivotRow _ left]

/-- A column with a pivot is cleared. -/
theorem cleared_step_self (positive : 0 < tolerance)
    (large : tolerance ≤ |(brought state.matrix i).entry i i.castSucc|) :
    Cleared (step tolerance state i).matrix i := by
  intro k below
  have nonzero := abs_pos.mp (positive.trans_le large)
  rw [step_of_large large, entry_clearBelow, if_pos ⟨below, le_rfl⟩, div_mul_cancel₀ _ nonzero,
    sub_self]

/-- On the cleared columns, and on those from the diagonal on, treating a column is an invertible
change of rows. -/
theorem exists_step_columns (tolerance : ℝ) (state : State n ℝ) (i : Fin n) :
    ∃ change : (Fin n → ℝ) ≃ₗ[ℝ] (Fin n → ℝ), ∀ j : Fin (n + 1),
      (∀ c, c.castSucc = j → c < i → Cleared (step tolerance state i).matrix c) →
        (step tolerance state i).matrix.toMatrix.col j = change (state.matrix.toMatrix.col j) := by
  let exchange := LinearEquiv.funCongrLeft ℝ ℝ (Equiv.swap i (pivotRow state.matrix i))
  have exchanged (j : Fin (n + 1)) (k : Fin n) :
      exchange (state.matrix.toMatrix.col j) k = (brought state.matrix i).entry k j :=
    (entry_swapRows _ _ _ _ _).symm
  rcases lt_or_ge |(brought state.matrix i).entry i i.castSucc| tolerance with small | large
  · refine ⟨exchange, fun j _ => funext fun k => ?_⟩
    rw [exchanged, step_of_small small]
    rfl
  · set pivot := brought state.matrix i with broughtTo
    let multiples : Fin n → ℝ := fun k =>
      if i < k then -(pivot.entry k i.castSucc / pivot.entry i i.castSucc) else 0
    have own : LinearMap.proj (R := ℝ) (φ := fun _ : Fin n => ℝ) i multiples = 0 :=
      if_neg (lt_irrefl i)
    refine ⟨exchange.trans (LinearEquiv.transvection own), fun j cleared => funext fun k => ?_⟩
    have changed : (exchange.trans (LinearEquiv.transvection own)) (state.matrix.toMatrix.col j) k =
        pivot.entry k j + pivot.entry i j * multiples k := by
      rw [LinearEquiv.trans_apply, LinearEquiv.transvection.apply, Pi.add_apply, Pi.smul_apply,
        exchanged, LinearMap.proj_apply, exchanged, smul_eq_mul]
    rw [changed]
    show (step tolerance state i).matrix.entry k j = _
    by_cases below : i < k
    · rw [show multiples k = _ from if_pos below]
      by_cases right : i.val ≤ j.val
      · rw [step_of_large large, entry_clearBelow, if_pos ⟨below, right⟩]
        ring
      · -- A cleared column left of the diagonal vanishes in the pivot row and in the rows below.
        obtain ⟨c, rfl⟩ : ∃ c : Fin n, c.castSucc = j :=
          ⟨⟨j.val, (Nat.lt_of_not_le right).trans i.isLt⟩, rfl⟩
        have left : c < i := Nat.lt_of_not_le right
        have vanishes := cleared c rfl left
        have untouched :
            pivot.entry k c.castSucc = (step tolerance state i).matrix.entry k c.castSucc := by
          rw [entry_step_left left, broughtTo, brought, entry_swapRows]
        rw [untouched, vanishes k (left.trans below), ← entry_step_self, vanishes i left]
        ring
    · rw [show multiples k = _ from if_neg below, mul_zero, add_zero, step_of_large large,
        entry_clearBelow_of_le _ (not_lt.mp below)]

end Step

/-! ## What the forward pass leaves -/

/-- From its column on, a row of the forward pass stays as it is. -/
theorem entry_reached {c : Fin n} (j : Fin (n + 1)) :
    ∀ count ≤ n, c.val < count →
      (reached tolerance a b count).matrix.entry c j =
        (brought (reached tolerance a b c).matrix c).entry c j := by
  refine reached_induction (fun count state => c.val < count → state.matrix.entry c j = _)
    (fun none => absurd none (Nat.not_lt_zero _)) ?_
  intro i before within
  rcases Nat.lt_succ_iff_lt_or_eq.mp within with earlier | same
  · rw [entry_step_of_lt earlier, before earlier]
  · obtain rfl : c = i := Fin.ext same
    exact entry_step_self j

/-- **The backward pass skips the columns that the forward pass skipped.** -/
theorem isSkipped_forward_iff {c : Fin n} :
    isSkipped tolerance (forward tolerance a b).matrix c = true ↔ c ∈ passed tolerance a b := by
  rw [mem_passed, isSkipped, Scalar.lt_iff, Scalar.abs_eq, ← reached_all,
    entry_reached _ n le_rfl c.isLt]

theorem le_of_notMem_passed {c : Fin n} (kept : c ∉ passed tolerance a b) :
    tolerance ≤ |(forward tolerance a b).matrix.entry c c.castSucc| := by
  rw [← isSkipped_eq_false, Bool.eq_false_iff]
  exact mt isSkipped_forward_iff.mp kept

/-- The columns skipped are counted. -/
theorem skipped_forward : (forward tolerance a b).skipped = (passed tolerance a b).card := by
  have upTo : ∀ count ≤ n, (reached tolerance a b count).skipped =
      ((passed tolerance a b).filter fun c => c.val < count).card := by
    refine reached_induction (fun count state =>
      state.skipped = ((passed tolerance a b).filter fun c => c.val < count).card) (by simp) ?_
    intro i before
    have next : (passed tolerance a b).filter (fun c => c.val < i.val + 1) =
        if i ∈ passed tolerance a b then insert i ((passed tolerance a b).filter fun c =>
          c.val < i.val)
        else (passed tolerance a b).filter fun c => c.val < i.val := by
      ext c
      split
      case isTrue here => grind
      case isFalse away => grind
    rw [next]
    by_cases here : i ∈ passed tolerance a b
    · rw [if_pos here, step_of_small (mem_passed.mp here), before,
        Finset.card_insert_of_notMem (by simp)]
    · rw [if_neg here, step_of_large (not_lt.mp (mt mem_passed.mpr here)), before]
  rw [← reached_all, upTo n le_rfl, Finset.filter_true_of_mem fun c _ => c.isLt]

/-- A column that is cleared in its turn stays so. -/
theorem cleared_forward_of_step {c : Fin n}
    (here : Cleared (step tolerance (reached tolerance a b c) c).matrix c) :
    Cleared (forward tolerance a b).matrix c := by
  have stays : ∀ count ≤ n, c.val < count → Cleared (reached tolerance a b count).matrix c := by
    refine reached_induction (fun count state => c.val < count → Cleared state.matrix c)
      (fun none => absurd none (Nat.not_lt_zero _)) ?_
    intro i before within
    rcases Nat.lt_succ_iff_lt_or_eq.mp within with earlier | same
    · exact (cleared_step_iff earlier).mpr (before earlier)
    · obtain rfl : c = i := Fin.ext same
      exact here
  rw [← reached_all]
  exact stays n le_rfl c.isLt

/-- Columns with a pivot are cleared. -/
theorem cleared_forward (positive : 0 < tolerance) {c : Fin n} (kept : c ∉ passed tolerance a b) :
    Cleared (forward tolerance a b).matrix c :=
  cleared_forward_of_step (cleared_step_self positive (not_lt.mp (mt mem_passed.mpr kept)))

/-! ## The change of rows -/

/-- The coefficients of an extended matrix. -/
def coefficients (m : Dense n (n + 1) ℝ) : Matrix (Fin n) (Fin n) ℝ :=
  m.toMatrix.submatrix id Fin.castSucc

/-- The right side of an extended matrix. -/
def rightSide (m : Dense n (n + 1) ℝ) : Fin n → ℝ := m.toMatrix.col (Fin.last n)

theorem coefficients_extended : coefficients (extended a b) = a.toMatrix := by
  ext i j
  exact entry_extended a b i j

theorem rightSide_extended : rightSide (extended a b) = b.get :=
  funext fun i => entry_extended_last a b i

/-- **On the right side and on its cleared columns, the forward pass is an invertible change of
rows.** -/
theorem exists_change (tolerance : ℝ) (a : Dense n n ℝ) (b : Vector ℝ n) :
    ∃ change : (Fin n → ℝ) ≃ₗ[ℝ] (Fin n → ℝ),
      rightSide (forward tolerance a b).matrix = change b.get ∧
        ∀ c, Cleared (forward tolerance a b).matrix c →
          (coefficients (forward tolerance a b).matrix).col c = change (a.toMatrix.col c) := by
  let Changed (count : ℕ) (state : State n ℝ) : Prop :=
    ∃ change : (Fin n → ℝ) ≃ₗ[ℝ] (Fin n → ℝ), ∀ j : Fin (n + 1),
      (∀ c, c.castSucc = j → c.val < count → Cleared state.matrix c) →
        state.matrix.toMatrix.col j = change ((extended a b).toMatrix.col j)
  have upTo : ∀ count ≤ n, Changed count (reached tolerance a b count) := by
    refine reached_induction Changed ⟨LinearEquiv.refl ℝ _, fun _ _ => rfl⟩ ?_
    rintro i ⟨earlier, before⟩
    obtain ⟨change, here⟩ := exists_step_columns tolerance (reached tolerance a b i) i
    refine ⟨earlier.trans change, fun j cleared => ?_⟩
    rw [here j fun c at_j left => cleared c at_j (Nat.lt_succ_of_lt left), LinearEquiv.trans_apply,
      before j]
    intro c at_j left
    exact (cleared_step_iff left).mp (cleared c at_j (Nat.lt_succ_of_lt left))
  obtain ⟨change, whole⟩ := upTo n le_rfl
  rw [reached_all] at whole
  refine ⟨change, ?_, fun c cleared => ?_⟩
  · rw [← rightSide_extended (a := a)]
    exact whole _ fun c at_last => absurd at_last (Fin.castSucc_ne_last c)
  · rw [← coefficients_extended (b := b)]
    exact whole _ fun d same _ => Fin.castSucc_injective n same ▸ cleared

/-! ## The rank -/

/-- The rows and columns with a pivot, alone. -/
noncomputable def pivots (tolerance : ℝ) (a : Dense n n ℝ) (b : Vector ℝ n) :
    Matrix {c // c ∉ passed tolerance a b} {c // c ∉ passed tolerance a b} ℝ :=
  (coefficients (forward tolerance a b).matrix).submatrix Subtype.val Subtype.val

theorem isUnit_pivots (positive : 0 < tolerance) (a : Dense n n ℝ) (b : Vector ℝ n) :
    IsUnit (pivots tolerance a b) := by
  have triangular : (pivots tolerance a b).IsUpperTriangular :=
    fun k c below => cleared_forward positive c.property k below
  rw [isUnit_iff_isUnit_det, det_of_isUpperTriangular triangular, isUnit_iff_ne_zero,
    Finset.prod_ne_zero_iff]
  exact fun c _ => abs_pos.mp (positive.trans_le (le_of_notMem_passed c.property))

/-- **There are no more columns with a pivot than the rank.** -/
theorem le_rank_add_card_passed (positive : 0 < tolerance) (a : Dense n n ℝ) (b : Vector ℝ n) :
    n ≤ a.toMatrix.rank + (passed tolerance a b).card := by
  obtain ⟨change, -, columns⟩ := exists_change tolerance a b
  have part : pivots tolerance a b =
      (LinearMap.toMatrix' change.toLinearMap * a.toMatrix).submatrix Subtype.val Subtype.val := by
    ext k c
    have column := columns c.val (cleared_forward positive c.property)
    rw [← LinearEquiv.coe_coe, ← LinearMap.toMatrix'_mulVec] at column
    exact congrFun column k.val
  have rank : (pivots tolerance a b).rank ≤ a.toMatrix.rank := by
    rw [part]
    exact (rank_submatrix_le _ _ _).trans (rank_mul_le_right _ _)
  rw [rank_of_isUnit _ (isUnit_pivots positive a b), Fintype.card_subtype_compl, Fintype.card_fin,
    Fintype.card_coe] at rank
  omega

/-! ## The backward pass -/

theorem unknown_congr {m : Dense n (n + 1) ℝ} {x y : Vector ℝ n} {i : Fin n}
    (later : ∀ j > i, x.get j = y.get j) : unknown m x i = unknown m y i := by
  rw [unknown, unknown]
  congr 2
  refine congrArg Scalar.sum (List.map_congr_left fun j after => ?_)
  rw [later j (of_decide_eq_true (List.mem_filter.mp after).2)]

/-- **An unknown is zero in a skipped column, and otherwise what its row says when the later ones
are known.** -/
theorem get_backward (tolerance : ℝ) (m : Dense n (n + 1) ℝ) (i : Fin n) :
    (backward tolerance m).get i =
      if isSkipped tolerance m i then 0 else unknown m (backward tolerance m) i := by
  let Found (first : ℕ) (x : Vector ℝ n) : Prop := ∀ i : Fin n, x.get i =
    if i.val < first ∨ isSkipped tolerance m i = true then 0 else unknown m x i
  have found : Found 0 (backward tolerance m) := by
    refine foldl_reverse_finRange_induction Found ?_ ?_
    · intro i
      rw [if_pos (.inl i.isLt)]
      exact (Vector.getElem_replicate i.isLt).trans Scalar.zero_eq
    · intro i x known j
      have later (k : Fin n) (from_i : i ≤ k) :
          unknown m (substitute tolerance m x i) k = unknown m x k :=
        unknown_congr fun l after => get_substitute_of_ne m x (from_i.trans_lt after).ne'
      rcases lt_trichotomy j i with before | rfl | after
      · rw [get_substitute_of_ne m x before.ne, known, if_pos (.inl (Nat.lt_succ_of_lt before)),
          if_pos (.inl before)]
      · rw [later j le_rfl]
        by_cases skipped : isSkipped tolerance m j = true
        · rw [substitute, if_pos skipped, known, if_pos (.inr skipped), if_pos (.inr skipped)]
        · rw [substitute, if_neg skipped, if_neg (by simp [skipped])]
          exact Vector.getElem_set_self _
      · have early : ¬ j.val < i.val + 1 := Nat.not_lt.mpr after
        rw [get_substitute_of_ne m x after.ne', known, later j after.le]
        simp only [early, not_lt_of_gt (Fin.lt_def.mp after)]
  simpa using found i

/-! ## Triangular matrices -/

theorem pivotRow_eq_self {m : Dense n (n + 1) ℝ} {i : Fin n}
    (largest : ∀ k > i, |m.entry k i.castSucc| ≤ |m.entry i i.castSucc|) : pivotRow m i = i := by
  refine List.foldlRecOn (motive := fun held => held = i) (List.finRange n) _ rfl ?_
  intro held own k _
  rw [own]
  refine if_neg fun taken => ?_
  have larger : |m.entry i i.castSucc| < |m.entry k i.castSucc| := by
    simpa [replaces, Scalar.isUndefined, Scalar.same] using taken.2
  exact absurd larger (not_lt.mpr (largest k taken.1))

theorem brought_eq_self {m : Dense n (n + 1) ℝ} {i : Fin n}
    (largest : ∀ k > i, |m.entry k i.castSucc| ≤ |m.entry i i.castSucc|) : brought m i = m := by
  refine Dense.ext_entry fun k j => ?_
  rw [brought, entry_swapRows, pivotRow_eq_self largest, Equiv.swap_self, Equiv.refl_apply]

/-- Where nothing is left below the diagonal, nothing changes. -/
theorem matrix_step_of_cleared {state : State n ℝ} {i : Fin n} (cleared : Cleared state.matrix i) :
    (step tolerance state i).matrix = state.matrix := by
  have same : brought state.matrix i = state.matrix := by
    refine brought_eq_self fun k below => ?_
    rw [cleared k below, abs_zero]
    exact abs_nonneg _
  rcases lt_or_ge |(brought state.matrix i).entry i i.castSucc| tolerance with small | large
  · rw [step_of_small small, same]
  · refine Dense.ext_entry fun k j => ?_
    rw [step_of_large large, same, entry_clearBelow]
    split
    case isTrue both => rw [cleared k both.1, zero_div, zero_mul, sub_zero]
    case isFalse _ => rfl

/-- A triangular matrix is left as it is. -/
theorem matrix_reached_of_upper (upper : ∀ k c : Fin n, c < k → a.entry k c = 0) :
    ∀ count ≤ n, (reached tolerance a b count).matrix = extended a b := by
  refine reached_induction (fun _ state => state.matrix = extended a b) rfl ?_
  intro i same
  rw [matrix_step_of_cleared, same]
  intro k below
  rw [same, entry_extended, upper k i below]

/-- Of a triangular matrix the columns with a small entry on the diagonal are skipped. -/
theorem mem_passed_of_upper (upper : ∀ k c : Fin n, c < k → a.entry k c = 0) {c : Fin n} :
    c ∈ passed tolerance a b ↔ |a.entry c c| < tolerance := by
  have same : brought (extended a b) c = extended a b := by
    refine brought_eq_self fun k below => ?_
    rw [entry_extended, upper k c below, abs_zero]
    exact abs_nonneg _
  rw [mem_passed, matrix_reached_of_upper upper c c.isLt.le, same, entry_extended]

theorem skipped_of_upper (upper : ∀ k c : Fin n, c < k → a.entry k c = 0) :
    (eliminate tolerance a b).skipped = ∑ c, if |a.entry c c| < tolerance then 1 else 0 := by
  have small : passed tolerance a b = Finset.univ.filter fun c => |a.entry c c| < tolerance := by
    ext c
    rw [mem_passed_of_upper upper, Finset.mem_filter]
    exact (and_iff_right (Finset.mem_univ c)).symm
  rw [eliminate, skipped_forward, small, Finset.card_filter]

/-- The coefficients of two equations, the second without the first unknown. -/
def pair (p q s : ℝ) : Dense 2 2 ℝ := Dense.ofFn fun i j => !![p, q; 0, s] i j

@[simp] theorem entry_pair (p q s : ℝ) (i j : Fin 2) :
    (pair p q s).entry i j = !![p, q; 0, s] i j :=
  Dense.entry_ofFn _ i j

theorem toMatrix_pair (p q s : ℝ) : (pair p q s).toMatrix = !![p, q; 0, s] :=
  Matrix.ext (entry_pair p q s)

theorem upper_pair (p q s : ℝ) : ∀ k c : Fin 2, c < k → (pair p q s).entry k c = 0 := by
  intro k c below
  obtain ⟨rfl, rfl⟩ : k = 1 ∧ c = 0 := by omega
  simp

end Elimination

/-- **What an elimination finds, whatever it skips.** The columns it does not skip are no more than
the rank of its matrix; it counts the columns it skips, the same in both passes, and leaves their
unknowns at zero; and when it skips none, the matrix is invertible and it finds the one solution. -/
theorem eliminate_pivots (positive : 0 < tolerance) (a : Dense n n ℝ) (b : Vector ℝ n) :
    n ≤ a.toMatrix.rank + (eliminate tolerance a b).skipped ∧
      (Elimination.passed tolerance a b).card = (eliminate tolerance a b).skipped ∧
      (∀ c, Elimination.isSkipped tolerance (Elimination.forward tolerance a b).matrix c = true ↔
        c ∈ Elimination.passed tolerance a b) ∧
      (∀ c ∈ Elimination.passed tolerance a b, (eliminate tolerance a b).solution.get c = 0) ∧
      ((eliminate tolerance a b).skipped = 0 → IsUnit a.toMatrix ∧
        ∀ z, a.toMatrix *ᵥ z = b.get ↔ z = (eliminate tolerance a b).solution.get) := by
  have counted : (eliminate tolerance a b).skipped = (Elimination.passed tolerance a b).card :=
    Elimination.skipped_forward
  refine ⟨?_, counted.symm, fun c => Elimination.isSkipped_forward_iff, fun c skipped =>
    ?_, fun all => ?_⟩
  · rw [counted]
    exact Elimination.le_rank_add_card_passed positive a b
  · rw [eliminate, Elimination.get_backward, if_pos (Elimination.isSkipped_forward_iff.mpr skipped)]
  · have only := eliminate_mulVec_iff positive all
    refine ⟨mulVec_injective_iff_isUnit.mp fun y z same => ?_, only⟩
    -- Two vectors taken to the same place differ by what takes the solution to another one.
    have other : a.toMatrix *ᵥ ((eliminate tolerance a b).solution.get + (y - z)) = b.get := by
      rw [mulVec_add, mulVec_sub, same, sub_self, add_zero, only]
    exact sub_eq_zero.mp (add_eq_left.mp ((only _).mp other))

/-- Of two equations without content in the second, one column is skipped, its unknown is zero, and
the rank is at least one. -/
theorem eliminate_pivots_pair :
    (0 : ℝ) < 1 ∧ (eliminate 1 (Elimination.pair 1 2 0) #v[3, 5]).skipped = 1 ∧
      2 ≤ (Elimination.pair 1 2 0).toMatrix.rank + 1 ∧
      (eliminate 1 (Elimination.pair 1 2 0) #v[3, 5]).solution.get 1 = 0 := by
  obtain ⟨bound, counted, -, zero, -⟩ := eliminate_pivots one_pos (Elimination.pair 1 2 0) #v[3, 5]
  have passed (c : Fin 2) : c ∈ Elimination.passed 1 (Elimination.pair 1 2 0) #v[3, 5] ↔ c = 1 := by
    rw [Elimination.mem_passed_of_upper (Elimination.upper_pair 1 2 0)]
    fin_cases c <;> simp
  have single : Elimination.passed 1 (Elimination.pair 1 2 0) #v[3, 5] = {1} :=
    Finset.ext fun c => (passed c).trans Finset.mem_singleton.symm
  rw [single, Finset.card_singleton] at counted
  refine ⟨one_pos, counted.symm, ?_, zero 1 ((passed 1).mpr rfl)⟩
  rw [← counted] at bound
  exact bound

end PlanarSketch
