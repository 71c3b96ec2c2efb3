import PlanarSketch.Fault
import PlanarSketch.Proofs.Solve.Solved

/-!
# Solving a store again

A store whose parameters are finite is not changed by writing its own parameters back
(`Store.moved_own`), and noting the same reports again changes no constraint
(`Store.noteSatisfied_again`).

So a solve that converged has nothing left to do. The values it left are the parameters of the
store, their norm is below the tolerance, and a second solve under the same settings ends in its
first iteration, says the same about every constraint, and leaves the store exactly as it is
(`Store.Solves.again`). The formulas and what tells the runs to stop may differ.
-/

set_option autoImplicit false

namespace PlanarSketch

variable {α : Type} [Scalar α]

/-! ## Writing what is already there -/

theorem Entity.rewritten_own {values : Array α} {places : List (Nat × Entity α)}
    (own : ∀ place ∈ places, Entity.readAt values place = place.2)
    (finite : ∀ place ∈ places, place.2.isFinite = true) :
    Entity.rewritten values places = (.ok (), places.map Prod.snd) := by
  induction places with
  | nil => rfl
  | cons place rest ih =>
      obtain ⟨here, later⟩ := List.forall_mem_cons.mp own
      obtain ⟨bounded, others⟩ := List.forall_mem_cons.mp finite
      rw [Entity.rewritten, ih later others, here, List.map_cons, if_pos bounded]
      split <;> rfl

namespace Store

variable {store : Store α}

theorem rewritten_own (finite : ∀ entity ∈ store.entities, entity.isFinite = true) :
    store.rewritten store.parameters.toArray = (.ok (), store.entities) := by
  have own : store.parameters.toArray.toList.drop 0 = store.entities.flatMap Entity.parameters :=
    rfl
  rw [rewritten, Entity.rewritten_own (fun _ member => Entity.readAt_own own member)
    (forall_placed 0 finite), Entity.map_snd_placed]

/-- Writing a store's own parameters back does not change it. -/
theorem moved_own (finite : ∀ entity ∈ store.entities, entity.isFinite = true) :
    store.moved store.parameters.toArray = store := by
  rw [moved, rewritten_own finite]

omit [Scalar α] in
theorem noteSatisfied_again (store : Store α) (reports : List (ConstraintReport α)) :
    (store.noteSatisfied reports).noteSatisfied reports = store.noteSatisfied reports := by
  obtain ⟨entities, constraints⟩ := store
  simp only [noteSatisfied, Store.mk.injEq, true_and]
  induction constraints generalizing reports with
  | nil => rfl
  | cons constraint rest ih =>
      cases reports with
      | nil => rfl
      | cons report others => exact congrArg (List.cons _) (ih others)

/-- How constraints stand does not depend on what was noted before. -/
theorem constraintReports_of_framed {before after : Store α} (layout : Layout α) (values : Array α)
    (framed : List.Forall₂ Constraint.Framed before.constraints after.constraints) :
    after.constraintReports layout values = before.constraintReports layout values := by
  rw [constraintReports, constraintReports]
  generalize layout.bound.toList = bound
  generalize before.constraints = constraints at framed ⊢
  generalize after.constraints = noted at framed ⊢
  induction framed generalizing bound with
  | nil => rfl
  | @cons before after _ _ first _ ih =>
      cases bound with
      | nil => rfl
      | cons bound others =>
          rw [List.zipWith_cons_cons, List.zipWith_cons_cons, ih,
            show after = { before with satisfied := after.satisfied } from first]

end Store

/-! ## The second solve -/

/-- A report on a solve that found nothing to do after another one: it converged in one iteration,
and says the same about residuals, entities and constraints. -/
structure Report.Repeats (again report : Report α) : Prop where
  ending : again.ending = .converged
  iterations : again.iterations = 1
  residual : again.residual = report.residual
  history : ∃ residual, report.residual = some residual ∧ again.history = [residual]
  entities : again.entities = report.entities
  constraints : again.constraints = report.constraints

/-- **A solve after one that converged changes nothing.** -/
theorem Store.Solves.again [Scalar.StrictOrder α] {store : Store α} (problem : Problem α)
    {polls later : Nat → Bool} {solved next : Solved α} {report : Report α}
    (formulas : Formulas α) (laid : Layout.ofStore store = .ok problem.layout)
    (solves : store.Solves problem.layout
      (Newton.run problem polls store.parameters.toArray) solved)
    (finite : ∀ entity ∈ store.entities, entity.isFinite = true)
    (reported : solved.report = .ok report) (converged : report.ending = .converged)
    (budget : 0 < problem.settings.budget) (untold : later 0 = false)
    (solvesNext : solved.store.Solves problem.layout
      (Newton.run { problem with formulas } later solved.store.parameters.toArray) next) :
    next.outcome.builtMatrix = false ∧ next.store = solved.store ∧
      ∃ again, next.report = .ok again ∧ again.Repeats report := by
  have fits := fits_run problem laid polls
  have parameters := solves.parameters_after fits reported
  have finiteAfter := solves.isFinite finite
  obtain ⟨ending, _, residual⟩ := solves.report_run reported
  obtain ⟨norm, measured, small⟩ := Newton.run_converged (ending ▸ converged)
  -- The second run starts from the values the first one left, and ends with them.
  have start : solved.store.parameters.toArray =
      (Newton.run problem polls store.parameters.toArray).values := by
    rw [parameters, Array.toArray_toList]
  have written := rewritten_own finiteAfter
  have stays : Newton.run { problem with formulas } later
      (Newton.run problem polls store.parameters.toArray).values = _ :=
    Newton.run_of_small budget untold measured small
  rw [start, stays] at solvesNext
  rw [start] at written
  generalize Newton.run problem polls store.parameters.toArray = outcome at *
  cases solves with
  | refused error failed => cases reported
  | reported moved reports each notices =>
      cases reported
      have paired := length_constraintReports laid outcome.values
      rw [← each] at paired
      have noted :
          ((store.moved outcome.values).noteSatisfied reports).constraintReports
              problem.layout outcome.values =
            (store.moved outcome.values).constraintReports problem.layout outcome.values :=
        constraintReports_of_framed problem.layout outcome.values (framed_notes paired)
      have still := moved_own finiteAfter
      rw [start] at still
      cases solvesNext with
      | refused error failed =>
          rw [Newton.State.stop, written] at failed
          cases failed
      | reported _ again eachAgain _ =>
          dsimp only [Newton.State.stop] at eachAgain ⊢
          rw [still, noted, ← each] at eachAgain
          subst eachAgain
          rw [still]
          refine ⟨rfl, noteSatisfied_again _ _, _, rfl, rfl, rfl, ?_, ⟨_, ?_, rfl⟩, rfl, rfl⟩
          · exact norm.symm
          · exact norm

end PlanarSketch
