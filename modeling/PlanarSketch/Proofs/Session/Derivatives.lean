import PlanarSketch.Proofs.Jacobian.Dense
import PlanarSketch.Proofs.Session.Reachable

/-!
# Derivatives in a reachable session

The store of a reachable session is coherent, so filling the matrix of derivatives in its flat view
gives the difference quotients of all residuals by all unknowns, and leaves the values
(`Session.Reachable.fill_quotients`).
-/

set_option autoImplicit false

namespace PlanarSketch

namespace Session

open Jacobian

/-- **Filling is taking every difference quotient.** In the flat view of a reachable store, at any
values: a filling in any mode leaves the values as they are. With a positive step, where all
residuals are finite, a filling by forward or central difference quotients has in each place the
difference quotient of the equation's residual with the column's unknown alone moved, whether the
residuals are handed over or not. -/
theorem Reachable.fill_quotients {session : Session} (reached : Reachable session) :
    ∃ layout, Layout.ofStore session.sketch.store = .ok layout ∧
      ∀ (epsilon : Float) (formulas : Formulas Float) (values : Array Float)
        (residuals : Option (Vector Float layout.equations)),
        (∀ mode, (fill layout mode epsilon formulas values residuals).values = values) ∧
        (Scalar.lt Scalar.zero epsilon = true →
          (∀ i, ((layout.residuals values).get i).isFinite = true) →
          (residuals = none ∨ residuals = some (layout.residuals values)) →
          (fill layout .forward epsilon formulas values residuals).matrix =
            forwardQuotients layout epsilon values ∧
          (fill layout .central epsilon formulas values residuals).matrix =
            centralQuotients layout epsilon values) := by
  have flat := Layout.ofStore_of_coherent reached.sound.coherent
  refine ⟨_, flat, fun epsilon formulas values residuals => ⟨fun mode => ?_, ?_⟩⟩
  · rw [fill_eq]
  · intro positive finite handed
    exact ⟨fill_forward_eq positive finite formulas handed,
      fill_central_eq positive finite formulas residuals⟩

/-- The residual of two points at their parameters is finite, and the quotients of its one row are
taken. -/
theorem fill_twoPoints_quotients :
    ∃ layout, Layout.ofStore (twoPoints (.obj []) 0.75).sketch.store = .ok layout ∧
      let values := (twoPoints (.obj []) 0.75).sketch.store.parameters.toArray
      (fill layout .forward 1e-8 .standard values none).values = values ∧
        (fill layout .forward 1e-8 .standard values none).matrix =
          forwardQuotients layout 1e-8 values := by
  have reached := reachable_twoPoints (.obj []) 0.75
  obtain ⟨layout, flat, filled⟩ := reached.fill_quotients
  cases flat.symm.trans (Layout.ofStore_of_coherent reached.sound.coherent)
  obtain ⟨kept, quotients⟩ :=
    filled 1e-8 .standard (twoPoints (.obj []) 0.75).sketch.store.parameters.toArray none
  have all : ((Layout.laid (twoPoints (.obj []) 0.75).sketch.store).residuals
      (twoPoints (.obj []) 0.75).sketch.store.parameters.toArray).toList.all
        Float.isFinite = true := by
    decide +kernel
  refine ⟨_, flat, kept .forward, (quotients (by decide +kernel) (fun i => ?_) (.inl rfl)).1⟩
  exact List.all_eq_true.mp all _ (Vector.mem_toList_iff.mpr (Vector.getElem_mem i.isLt))

end Session

end PlanarSketch
