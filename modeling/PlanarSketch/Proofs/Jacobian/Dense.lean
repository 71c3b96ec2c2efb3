import Mathlib
import PlanarSketch.Proofs.Jacobian.InPlace
import PlanarSketch.Proofs.Jacobian.Reads
import PlanarSketch.Proofs.Layout.Columns
import PlanarSketch.Proofs.Number.Vanishing

/-!
# The matrix of all difference quotients

A filling visits only the columns that a constraint is bound to. The matrix it stands for has a
difference quotient of every residual by every unknown, each taken with that unknown alone moved
(`Jacobian.forwardQuotients`, `Jacobian.centralQuotients`).

For a coherent store the two are the same wherever the residuals are finite, since a column that is
left out belongs to a slot that the constraint does not read: its residual does not change, and the
difference quotient of a finite number that does not change is zero (`Jacobian.fill_forward_eq`,
`Jacobian.fill_central_eq`).
-/

set_option autoImplicit false

namespace PlanarSketch

variable {α : Type} [Scalar α]

namespace Jacobian

/-- The difference quotients of all residuals by all unknowns, one step forward. -/
def forwardQuotients (layout : Layout α) (epsilon : α) (values : Array α) :
    Dense layout.equations layout.unknowns α :=
  Dense.ofFn fun i j =>
    ((layout.residuals (shift values (layout.slotAt j) (· + epsilon))).get i -
      (layout.residuals values).get i) / epsilon

/-- The difference quotients of all residuals by all unknowns, one step either way. -/
def centralQuotients (layout : Layout α) (epsilon : α) (values : Array α) :
    Dense layout.equations layout.unknowns α :=
  Dense.ofFn fun i j =>
    ((layout.residuals (shift values (layout.slotAt j) (· + epsilon))).get i -
      (layout.residuals (shift values (layout.slotAt j) (· - epsilon))).get i) /
        (Scalar.two * epsilon)

/-- The difference quotient that a mode takes; `here` is the residual at the values themselves. -/
def quotient (mode : DerivativeMode) (epsilon : α) (values : Array α) (bound : Bound α) (here : α)
    (slot : Nat) : α :=
  match mode with
  | .central => centralQuotient epsilon values bound slot
  | _ => forwardQuotient epsilon values bound here slot

theorem get_differenceRow (layout : Layout α) (mode : DerivativeMode) (epsilon : α)
    (values : Array α) (bound : Bound α) (here : α) (j : Fin layout.unknowns) :
    (differenceRow layout mode epsilon values bound here).get j =
      if j.val ∈ bound.columns then quotient mode epsilon values bound here (layout.slotAt j)
      else Scalar.zero := by
  refine (Vector.getElem_ofFn j.isLt).trans ?_
  rw [Layout.getD_freeSlots]
  rfl

/-- An entry of a matrix of difference quotients; columns that a constraint is not bound to are left
out. -/
theorem entry_build {layout : Layout α} {mode : DerivativeMode} (quotients : mode ≠ .analytic)
    (epsilon : α) (formulas : Formulas α) (values : Array α)
    (residuals : Option (Vector α layout.equations)) (i : Fin layout.equations)
    (j : Fin layout.unknowns) :
    (build layout mode epsilon formulas values residuals).matrix.entry i j =
      if j.val ∈ (layout.boundAt i).columns then
        quotient mode epsilon values (layout.boundAt i) (residualAt layout values residuals i)
          (layout.slotAt j)
      else Scalar.zero := by
  rw [Dense.entry]
  cases columns : (layout.boundAt i).columns with
  | nil =>
      have known : source mode formulas values (layout.boundAt i) = .blank := by simp [source,
        columns]
      rw [get_build known]
      refine Eq.trans ?_ (if_neg List.not_mem_nil).symm
      exact Vector.getElem_replicate j.isLt
  | cons column rest =>
      have known : source mode formulas values (layout.boundAt i) = .differences false := by
        cases mode with
        | analytic => cases quotients rfl
        | forward | central => simp [source, columns]
      rw [get_build known, ← columns]
      exact get_differenceRow ..

end Jacobian

namespace Layout

variable {store : Store α}

/-- What a constraint of a coherent store is not bound to, it does not read. -/
theorem slotAt_notMem_reads (store : Store α) {i : Fin (laid store).equations}
    {j : Fin (laid store).unknowns} (unbound : j.val ∉ ((laid store).boundAt i).columns) :
    (laid store).slotAt j ∉ ((laid store).boundAt i).relation.reads := by
  intro read
  obtain ⟨constraint, -, same⟩ := getElem?_constraints store i
  rw [same] at unbound read
  obtain ⟨operand, referred, own⟩ := Relation.mem_slots_of_mem_reads read
  exact unbound ((mem_columns store constraint j.val).mpr ⟨j, rfl, operand, referred, own⟩)

end Layout


namespace Jacobian

variable [Scalar.Cancels α] {store : Store α} {epsilon : α} {values : Array α}

section Finite

variable (positive : Scalar.lt Scalar.zero epsilon = true)
  (finite : ∀ i, Scalar.isFinite (((Layout.laid store).residuals values).get i) = true)

include positive finite

/-- **Forward difference quotients, columns left out and all.** -/
theorem fill_forward_eq (formulas : Formulas α)
    {residuals : Option (Vector α (Layout.laid store).equations)}
    (handed : residuals = none ∨ residuals = some ((Layout.laid store).residuals values)) :
    (fill (Layout.laid store) .forward epsilon formulas values residuals).matrix =
      forwardQuotients (Layout.laid store) epsilon values := by
  have here (i : Fin (Layout.laid store).equations) :
      residualAt (Layout.laid store) values residuals i =
        ((Layout.laid store).residuals values).get i := by
    rcases handed with rfl | rfl
    · exact (Layout.get_residuals values i).symm
    · rfl
  rw [fill_eq]
  refine Dense.ext_entry fun i j => ?_
  rw [entry_build (by decide), forwardQuotients, Dense.entry_ofFn, here, Layout.get_residuals,
    Layout.get_residuals]
  split
  case isTrue _ => rfl
  case isFalse unbound =>
    rw [Bound.residual_shift (Layout.slotAt_notMem_reads store unbound), ← Layout.get_residuals]
    exact (Scalar.Cancels.forward (finite i) positive).symm

/-- **Central difference quotients, columns left out and all.** -/
theorem fill_central_eq (formulas : Formulas α)
    (residuals : Option (Vector α (Layout.laid store).equations)) :
    (fill (Layout.laid store) .central epsilon formulas values residuals).matrix =
      centralQuotients (Layout.laid store) epsilon values := by
  rw [fill_eq]
  refine Dense.ext_entry fun i j => ?_
  rw [entry_build (by decide), centralQuotients, Dense.entry_ofFn, Layout.get_residuals,
    Layout.get_residuals]
  split
  case isTrue _ => rfl
  case isFalse unbound =>
    have unread := Layout.slotAt_notMem_reads store unbound
    rw [Bound.residual_shift unread, Bound.residual_shift unread, ← Layout.get_residuals]
    exact (Scalar.Cancels.central (finite i) positive).symm

end Finite

end Jacobian

end PlanarSketch
