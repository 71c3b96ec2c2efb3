import Mathlib
import PlanarSketch.Proofs.Exact.Correction
import PlanarSketch.Proofs.Exact.Matching
import PlanarSketch.Proofs.Jacobian.Analytic
import PlanarSketch.Proofs.Jacobian.Reads

/-!
# Renumbered flat views

Two flat views can differ in nothing but the numbers they give to slots, to columns and to
equations, and in which of two references of a constraint comes first (`Layout.Renumbering`). Then
everything measured at corresponding values corresponds: residuals and their norm
(`Layout.Renumbering.residuals`, `Layout.Renumbering.norm`), and the matrix of derivatives, whether
by formula or by difference quotients (`Layout.Renumbering.matrix`). Applying corresponding
corrections keeps values corresponding (`Layout.Renumbering.advance`).
-/

set_option autoImplicit false

namespace PlanarSketch

namespace Layout

variable {layout : Layout ℝ}

theorem residualNorm_eq {m : ℕ} (residuals : Vector ℝ m) :
    residualNorm residuals = Real.sqrt (Dense.dot residuals residuals) := by
  have listed : residuals.toList = (List.finRange m).map residuals.get := by
    refine List.ext_getElem (by simp) ?_
    intro i _ _
    simp [Vector.get]
  rw [residualNorm, Scalar.norm, listed, List.map_map, Dense.dot]
  rfl

/-- A row of partial derivatives has in each column the derivative for the column's slot. -/
theorem get_partialsRow (distinct : Function.Injective layout.slotAt) (partials : Partials ℝ)
    (column : Fin layout.unknowns) :
    (Jacobian.partialsRow layout partials).get column =
      Partials.at partials (layout.slotAt column) := by
  rw [get_partialsRow_total distinct, Partials.total, Scalar.sum_eq, Partials.at]

theorem get_matrix (layout : Layout ℝ) (mode : DerivativeMode) (epsilon : ℝ) (formulas : Formulas ℝ)
    (values : Array ℝ) (i : Fin layout.equations) :
    (Jacobian.build layout mode epsilon formulas values
      (some (layout.residuals values))).matrix.get i =
      Jacobian.row layout mode epsilon values (layout.boundAt i) ((layout.residuals values).get i)
        (Jacobian.source mode formulas values (layout.boundAt i)) :=
  Dense.get_ofFn _ i

/-- Where a standard formula has derivatives, they are what the matrix has. -/
theorem entry_of_partials (distinct : Function.Injective layout.slotAt) {mode : DerivativeMode}
    (analytic : mode = .analytic) {values : Array ℝ} {i : Fin layout.equations}
    (dependent : (layout.boundAt i).columns.isEmpty = false) {partials : Partials ℝ}
    (known : Formulas.partials values (layout.boundAt i).relation = some partials) (epsilon : ℝ)
    (c : Fin layout.unknowns) :
    (Jacobian.build layout mode epsilon .standard values
      (some (layout.residuals values))).matrix.entry i c =
      Partials.at partials (layout.slotAt c) := by
  rw [Dense.entry, get_matrix, analytic, Jacobian.source_of_partials dependent known]
  exact get_partialsRow distinct partials c

end Layout

/-- Bound constraints with matching relations, the same target, and the columns of one those of the
other renumbered. -/
structure Bound.Renumbered {n n' : ℕ} (slot : Equiv.Perm ℕ) (column : Fin n ≃ Fin n')
    (bound bound' : Bound ℝ) : Prop where
  relation : bound.relation.Matches slot bound'.relation
  target : bound'.target = bound.target
  within : ∀ k ∈ bound.columns, k < n
  columns : ∀ k, k ∈ bound'.columns ↔ ∃ c, c.val ∈ bound.columns ∧ (column c).val = k

namespace Bound.Renumbered

variable {n n' : ℕ} {slot : Equiv.Perm ℕ} {column : Fin n ≃ Fin n'} {bound bound' : Bound ℝ}
  {values values' : Array ℝ}

theorem kind (renumbered : Renumbered slot column bound bound') : bound'.kind = bound.kind :=
  renumbered.relation.kind

theorem residual (renumbered : Renumbered slot column bound bound')
    (carried : Carried slot values values') :
    bound'.residual values' = bound.residual values := by
  rw [Bound.residual, Bound.residual, renumbered.target, renumbered.relation.residual carried]

theorem mem_columns (renumbered : Renumbered slot column bound bound') (c : Fin n) :
    (column c).val ∈ bound'.columns ↔ c.val ∈ bound.columns := by
  rw [renumbered.columns]
  constructor
  · rintro ⟨other, member, same⟩
    rwa [column.injective (Fin.ext same)] at member
  · exact fun member => ⟨c, member, rfl⟩

theorem isEmpty_columns (renumbered : Renumbered slot column bound bound') :
    bound'.columns.isEmpty = bound.columns.isEmpty := by
  rw [Bool.eq_iff_iff, List.isEmpty_iff, List.isEmpty_iff, List.eq_nil_iff_forall_not_mem,
    List.eq_nil_iff_forall_not_mem]
  constructor
  · intro none k member
    exact none _ ((renumbered.mem_columns ⟨k, renumbered.within k member⟩).mpr member)
  · intro none k member
    obtain ⟨c, among, _⟩ := (renumbered.columns k).mp member
    exact none c.val among

end Bound.Renumbered

/-- A flat view is another with its slots, columns and equations renumbered. -/
structure Layout.Renumbering (layout layout' : Layout ℝ) where
  slot : Equiv.Perm ℕ
  column : Fin layout.unknowns ≃ Fin layout'.unknowns
  equation : Fin layout.equations ≃ Fin layout'.equations
  distinct : Function.Injective layout.slotAt
  slotAt : ∀ c, layout'.slotAt (column c) = slot (layout.slotAt c)
  bound : ∀ i, (layout.boundAt i).Renumbered slot column (layout'.boundAt (equation i))

namespace Layout.Renumbering

variable {layout layout' : Layout ℝ} (same : Renumbering layout layout') {values values' : Array ℝ}

include same in
theorem distinct' : Function.Injective layout'.slotAt := by
  intro c d equal
  obtain ⟨c, rfl⟩ := same.column.surjective c
  obtain ⟨d, rfl⟩ := same.column.surjective d
  rw [same.slotAt, same.slotAt] at equal
  rw [same.distinct (same.slot.injective equal)]

theorem columnOf (s : ℕ) :
    layout'.columnOf (same.slot s) = (layout.columnOf s).map same.column := by
  refine Option.ext fun c => ?_
  obtain ⟨c, rfl⟩ := same.column.surjective c
  rw [columnOf_eq_some_iff same.distinct', same.slotAt, same.slot.injective.eq_iff,
    ← columnOf_eq_some_iff same.distinct, Option.map_eq_some_iff]
  simp

theorem residuals (carried : Carried same.slot values values') :
    Dense.Permuted same.equation (layout.residuals values) (layout'.residuals values') := by
  intro i
  rw [get_residuals, get_residuals, (same.bound i).residual carried]

/-- **Corresponding values have residuals of one norm.** -/
theorem norm (carried : Carried same.slot values values') :
    Layout.residualNorm (layout'.residuals values') =
      Layout.residualNorm (layout.residuals values) := by
  rw [residualNorm_eq, residualNorm_eq, (same.residuals carried).dot (same.residuals carried)]

/-- Applying corresponding corrections keeps values corresponding. -/
theorem advance (carried : Carried same.slot values values') (damping : ℝ)
    {delta : Vector ℝ layout.unknowns} {delta' : Vector ℝ layout'.unknowns}
    (steps : Dense.Permuted same.column delta delta') :
    Carried same.slot (layout.advance damping delta values)
      (layout'.advance damping delta' values') := by
  intro s
  rw [Layout.advance, Layout.advance, Array.getElem?_mapIdx, Array.getElem?_mapIdx, carried s,
    same.columnOf]
  cases layout.columnOf s with
  | none => rfl
  | some c => simp only [Option.map_some, steps c]

/-! ## The matrix of derivatives -/

theorem differenceRow (carried : Carried same.slot values values') (mode : DerivativeMode)
    (epsilon here : ℝ) (i : Fin layout.equations) :
    Dense.Permuted same.column
      (Jacobian.differenceRow layout mode epsilon values (layout.boundAt i) here)
      (Jacobian.differenceRow layout' mode epsilon values'
        (layout'.boundAt (same.equation i)) here) := by
  intro c
  have moved (change : ℝ → ℝ) := (same.bound i).residual (carried.shift (layout.slotAt c) change)
  rw [Jacobian.differenceRow, Jacobian.differenceRow, Dense.get_ofFn, Dense.get_ofFn]
  simp only [(same.bound i).mem_columns, getD_freeSlots, same.slotAt]
  split
  case isFalse _ => rfl
  case isTrue _ =>
    cases mode <;> simp only [Jacobian.centralQuotient, Jacobian.forwardQuotient, moved]

/-- The rows of corresponding constraints are filled in one way, and correspond. -/
theorem row (carried : Carried same.slot values values') (mode : DerivativeMode) (epsilon here : ℝ)
    (i : Fin layout.equations) :
    Dense.Permuted same.column
      (Jacobian.row layout mode epsilon values (layout.boundAt i) here
        (Jacobian.source mode .standard values (layout.boundAt i)))
      (Jacobian.row layout' mode epsilon values' (layout'.boundAt (same.equation i)) here
        (Jacobian.source mode .standard values' (layout'.boundAt (same.equation i)))) := by
  have differences := same.differenceRow carried mode epsilon here i
  have formulas (kind : RelationKind) : (Formulas.standard : Formulas ℝ) kind =
      if kind = .angle then none else some fun values bound =>
        Formulas.partials values bound.relation := by
    cases kind <;> rfl
  unfold Jacobian.source
  rw [(same.bound i).isEmpty_columns, (same.bound i).kind]
  split
  case isTrue _ =>
    intro c
    exact (Vector.getElem_replicate (same.column c).isLt).trans
      (Vector.getElem_replicate c.isLt).symm
  case isFalse _ =>
    cases mode with
    | forward | central => exact differences
    | analytic =>
        rw [formulas]
        by_cases angle : (layout.boundAt i).kind = .angle
        · rw [if_pos angle]
          exact differences
        · rw [if_neg angle]
          dsimp only
          have known := (same.bound i).relation.partials carried
          revert known
          generalize Formulas.partials values (layout.boundAt i).relation = given
          generalize Formulas.partials values' (layout'.boundAt (same.equation i)).relation = given'
          intro known
          cases known with
          | none => exact differences
          | some agree =>
              intro c
              simp only [Jacobian.row]
              rw [get_partialsRow same.distinct', get_partialsRow same.distinct, same.slotAt, agree]

/-- **Corresponding values have matrices of derivatives that are renumberings of one another.** -/
theorem matrix (carried : Carried same.slot values values') (mode : DerivativeMode) (epsilon : ℝ) :
    Dense.Renumbered same.equation same.column
      (Jacobian.build layout mode epsilon .standard values (some (layout.residuals values))).matrix
      (Jacobian.build layout' mode epsilon .standard values'
        (some (layout'.residuals values'))).matrix := by
  intro i c
  rw [Dense.entry, Dense.entry, get_matrix, get_matrix, same.residuals carried i]
  exact same.row carried mode epsilon _ i c

end Layout.Renumbering

end PlanarSketch
