import Mathlib
import PlanarSketch.Proofs.Exact.Renumbering
import PlanarSketch.Proofs.Newton.Best

/-!
# Runs of renumbered problems

Two runs whose flat views are renumberings of one another, from corresponding values, go in step
(`Newton.run_renumbered`): as long as neither skips a pivot, their states correspond
(`Newton.Twins`), and they end alike, after the same number of iterations, with the same history
(`Newton.Alike`).

Skipped pivots add up in the largest number a correction skipped, which never goes down
(`Newton.deficiency_le_proceed`). So it is enough to look at that number at the end of each run.
-/

set_option autoImplicit false

namespace PlanarSketch

namespace Newton

/-! ## One run, read exactly -/

section Run

variable {problem : Problem ℝ} {left done : ℕ} {state : State ℝ}

/-- The first row filled by difference quotients at given values. -/
noncomputable def differencesAt (problem : Problem ℝ) (values : Array ℝ) : Option ℕ :=
  (Jacobian.build problem.layout problem.settings.mode problem.settings.epsilon
    problem.formulas values
    (some (problem.layout.residuals values))).firstDifference

/-- A state after its values are measured and derivatives are taken. -/
noncomputable def State.measured (problem : Problem ℝ) (done : ℕ) (state : State ℝ) : State ℝ :=
  (state.record (normAt problem state.values)).noteDifferences (done + 1)
    (differencesAt problem state.values)

/-- A state after a correction is computed. -/
noncomputable def State.corrected (problem : Problem ℝ) (done : ℕ) (state : State ℝ)
    (correction : Correction problem.layout.unknowns ℝ) : State ℝ :=
  (state.measured problem done).noteCorrection (done + 1) (normAt problem state.values) correction

/-- A state after a correction is applied. -/
noncomputable def State.advanced (problem : Problem ℝ) (done : ℕ) (state : State ℝ)
    (correction : Correction problem.layout.unknowns ℝ) : State ℝ :=
  { state.corrected problem done correction with values := moved problem state.values correction }

/-- Read exactly, every norm is finite, so an iteration ends at a small norm, or without a
correction, or with a correction refused, or goes on. -/
theorem iterate_eq (problem : Problem ℝ) (done : ℕ) (state : State ℝ) :
    iterate problem false done state =
      if Scalar.lt (normAt problem state.values) problem.settings.tolerance then
        .stop ((state.record (normAt problem state.values)).stop .converged (done + 1)
          (some (normAt problem state.values)) state.values)
      else
        match correctionAt problem state.values with
        | .error cause =>
          .stop ((state.measured problem done).stopAtBest
            (.failed (.noCorrection cause)) (done + 1))
        | .ok correction =>
          if problem.settings.exceedsLimit correction.skipped then
            .stop ((state.corrected problem done correction).stop
              (.failed (.rankDeficient (done + 1) correction.skipped)) (done + 1)
              (some (normAt problem state.values)) state.values)
          else
            .next (state.advanced problem done correction) := by
  rw [iterate]
  simp only [Bool.false_eq_true, ↓reduceIte, Scalar.isFinite_eq]
  rw [correct_eq]
  dsimp only
  have solved : Correction.solve problem.settings.pivotTolerance
      (Jacobian.build problem.layout problem.settings.mode problem.settings.epsilon problem.formulas
        (state.record (Layout.residualNorm (problem.layout.residuals state.values))).values
        (some (problem.layout.residuals state.values))).matrix
      (problem.layout.residuals state.values) = correctionAt problem state.values := rfl
  rw [solved]
  cases correctionAt problem state.values with
  | error cause => rfl
  | ok correction => rfl

theorem proceed_of_small
    (small : Scalar.lt (normAt problem state.values) problem.settings.tolerance = true) :
    proceed problem (fun _ => false) (left + 1) done state =
      (state.record (normAt problem state.values)).stop .converged (done + 1)
        (some (normAt problem state.values)) state.values := by
  rw [proceed, iterate_eq, if_pos small]

theorem proceed_of_error
    (large : ¬ Scalar.lt (normAt problem state.values) problem.settings.tolerance = true)
    {cause : LinearFailure} (unsolved : correctionAt problem state.values = .error cause) :
    proceed problem (fun _ => false) (left + 1) done state =
      (state.measured problem done).stopAtBest (.failed (.noCorrection cause)) (done + 1) := by
  rw [proceed, iterate_eq, if_neg large, unsolved]

theorem proceed_of_ok
    (large : ¬ Scalar.lt (normAt problem state.values) problem.settings.tolerance = true)
    {correction : Correction problem.layout.unknowns ℝ}
    (solved : correctionAt problem state.values = .ok correction) :
    proceed problem (fun _ => false) (left + 1) done state =
      if problem.settings.exceedsLimit correction.skipped then
        (state.corrected problem done correction).stop
          (.failed (.rankDeficient (done + 1) correction.skipped)) (done + 1)
          (some (normAt problem state.values)) state.values
      else
        proceed problem (fun _ => false) left (done + 1)
          (state.advanced problem done correction) := by
  rw [proceed, iterate_eq, if_neg large, solved]
  dsimp only
  by_cases excessive : problem.settings.exceedsLimit correction.skipped = true
  · rw [if_pos excessive, if_pos excessive]
  · rw [if_neg excessive, if_neg excessive]

/-- The largest number of pivots skipped never goes down. -/
theorem deficiency_le_proceed (problem : Problem ℝ) (left done : ℕ) (state : State ℝ) :
    state.deficiency ≤ (proceed problem (fun _ => false) left done state).deficiency := by
  induction left generalizing done state with
  | zero => exact (deficiency_finish problem done state).ge
  | succ left ih =>
      rcases iterate_cases problem (fun _ => false) done state with
        ⟨outcome, stops, ends⟩ | ⟨next, goes, _, moves⟩
      · simp only [proceed, stops]
        cases ends with
        | cancelled told => cases told
        | notFinite _ unbounded => cases unbounded
        | converged => exact le_rfl
        | noCorrection =>
            rw [deficiency_stopAtBest]
            exact le_rfl
        | refused => exact le_max_left _ _
        | spent => exact (deficiency_finish problem done state).ge
      · simp only [proceed, goes]
        cases moves with
        | step =>
            refine le_trans ?_ (ih _ _)
            exact le_max_left _ _

/-- A run that computes a correction skips as many pivots as it, or more. -/
theorem skipped_le_proceed (left done : ℕ)
    (large : ¬ Scalar.lt (normAt problem state.values) problem.settings.tolerance = true)
    {correction : Correction problem.layout.unknowns ℝ}
    (solved : correctionAt problem state.values = .ok correction) :
    correction.skipped ≤ (proceed problem (fun _ => false) (left + 1) done state).deficiency := by
  rw [proceed_of_ok large solved]
  have here : correction.skipped ≤ (state.corrected problem done correction).deficiency :=
    le_max_right _ _
  split
  case isTrue _ => exact here
  case isFalse _ =>
    refine le_trans ?_ (deficiency_le_proceed problem left (done + 1) _)
    exact here

end Run

section Renumbered

variable {layout layout' : Layout ℝ} {settings : Settings ℝ}

/-- The problem of a flat view, with the formulas known from the start. -/
noncomputable abbrev problemOf (layout : Layout ℝ) (settings : Settings ℝ) : Problem ℝ :=
  { layout, settings, formulas := .standard }

/-- States of two runs correspond: their values and the best values they remember do, and the norms
they have measured are the same. -/
def Held (same : Layout.Renumbering layout layout') :
    Option (ℝ × Array ℝ) → Option (ℝ × Array ℝ) → Prop :=
  Option.Rel fun held held' => held'.1 = held.1 ∧ Carried same.slot held.2 held'.2

structure Twins (same : Layout.Renumbering layout layout') (state state' : State ℝ) : Prop where
  values : Carried same.slot state.values state'.values
  best : Held same state.best state'.best
  history : state'.history = state.history

/-- Two runs end alike. -/
structure Alike (same : Layout.Renumbering layout layout')
    (outcome outcome' : Outcome ℝ) : Prop where
  ending : outcome'.ending = outcome.ending
  iterations : outcome'.iterations = outcome.iterations
  residual : outcome'.residual = outcome.residual
  history : outcome'.history = outcome.history
  values : Carried same.slot outcome.values outcome'.values

variable {same : Layout.Renumbering layout layout'} {state state' : State ℝ}

theorem normAt_renumbered (settings : Settings ℝ) {values values' : Array ℝ}
    (carried : Carried same.slot values values') :
    normAt (problemOf layout' settings) values' = normAt (problemOf layout settings) values :=
  same.norm carried

theorem Twins.stop (twins : Twins same state state') (ending : Ending) (done : ℕ)
    (residual : Option ℝ) :
    Alike same (state.stop ending done residual state.values)
      (state'.stop ending done residual state'.values) :=
  ⟨rfl, rfl, rfl, twins.history, twins.values⟩

theorem Twins.stopAtBest (twins : Twins same state state') (ending : Ending) (done : ℕ) :
    Alike same (state.stopAtBest ending done) (state'.stopAtBest ending done) := by
  have best := twins.best
  rw [State.stopAtBest, State.stopAtBest]
  revert best
  generalize state.best = held
  generalize state'.best = held'
  intro best
  cases best with
  | none => exact twins.stop ending done none
  | some agree =>
      refine ⟨rfl, rfl, ?_, twins.history, agree.2⟩
      exact congrArg some agree.1

theorem improves_renumbered {held held' : Option (ℝ × Array ℝ)} (best : Held same held held')
    (norm : ℝ) :
    improves norm held' = improves norm held := by
  cases best with
  | none => rfl
  | some agree => rw [improves, improves, agree.1]

theorem Twins.record (twins : Twins same state state') (norm : ℝ) :
    Twins same (state.record norm) (state'.record norm) := by
  refine ⟨twins.values, ?_, congrArg (·.push norm) twins.history⟩
  simp only [State.record, improves_renumbered twins.best]
  split
  case isTrue _ => exact .some ⟨rfl, twins.values⟩
  case isFalse _ => exact twins.best

theorem Twins.measured (twins : Twins same state state') (settings : Settings ℝ) (done : ℕ) :
    Twins same (state.measured (problemOf layout settings) done)
      (state'.measured (problemOf layout' settings) done) := by
  have recorded := twins.record (normAt (problemOf layout settings) state.values)
  rw [State.measured, State.measured, normAt_renumbered settings twins.values]
  exact ⟨recorded.values, recorded.best, recorded.history⟩

theorem Twins.finishing (twins : Twins same state state') (settings : Settings ℝ) :
    Twins same (finishing (problemOf layout settings) state)
      (Newton.finishing (problemOf layout' settings) state') := by
  rw [Newton.finishing, Newton.finishing, normAt_renumbered settings twins.values,
    improves_renumbered twins.best, Scalar.isFinite_eq, Bool.true_and]
  split
  case isTrue _ => exact twins.record _
  case isFalse _ => exact twins

theorem verdict_renumbered {held held' : Option (ℝ × Array ℝ)} (best : Held same held held') :
    verdict (problemOf layout' settings) held' = verdict (problemOf layout settings) held := by
  cases best with
  | none => rfl
  | some agree =>
      rw [verdict, verdict, agree.1]

/-- Runs whose budget is spent end alike. -/
theorem Twins.finish (twins : Twins same state state') (done : ℕ) :
    Alike same (finish (problemOf layout settings) done state)
      (Newton.finish (problemOf layout' settings) done state') := by
  have last := twins.finishing settings
  rw [finish_eq, finish_eq, verdict_renumbered last.best]
  exact last.stopAtBest _ done

theorem Twins.advanced (twins : Twins same state state') (done : ℕ)
    {correction : Correction layout.unknowns ℝ} {correction' : Correction layout'.unknowns ℝ}
    (steps : Dense.Permuted same.column correction.delta correction'.delta) :
    Twins same (state.advanced (problemOf layout settings) done correction)
      (state'.advanced (problemOf layout' settings) done correction') :=
  have measured := twins.measured settings done
  ⟨same.advance twins.values settings.damping steps, measured.best, measured.history⟩

/-- **What is left of two runs goes in step.** -/
theorem Twins.proceed (positive : 0 < settings.pivotTolerance) (left done : ℕ)
    (state state' : State ℝ) (twins : Twins same state state')
    (all : (proceed (problemOf layout settings) (fun _ => false) left done state).deficiency = 0)
    (all' :
      (proceed (problemOf layout' settings) (fun _ => false) left done state').deficiency = 0) :
    Alike same (proceed (problemOf layout settings) (fun _ => false) left done state)
      (proceed (problemOf layout' settings) (fun _ => false) left done state') := by
  induction left generalizing done state state' with
  | zero => exact twins.finish done
  | succ left ih =>
      have norm := normAt_renumbered settings twins.values
      by_cases small : Scalar.lt (normAt (problemOf layout settings) state.values)
        settings.tolerance = true
      · have small' := small
        rw [← norm] at small'
        rw [proceed_of_small small, proceed_of_small small', norm]
        exact (twins.record _).stop _ _ _
      · have small' := small
        rw [← norm] at small'
        rcases Correction.solve_renumbered positive
          (same.matrix twins.values settings.mode settings.epsilon)
            (same.residuals twins.values) with
          ⟨cause, unsolved, unsolved'⟩ | ⟨correction, correction', solved, solved', agree⟩
        · rw [proceed_of_error small unsolved, proceed_of_error small' unsolved']
          exact (twins.measured settings done).stopAtBest _ _
        · have none := Nat.le_zero.mp (all ▸ skipped_le_proceed left done small solved)
          have none' := Nat.le_zero.mp (all' ▸ skipped_le_proceed left done small' solved')
          rw [proceed_of_ok small solved, none] at all
          rw [proceed_of_ok small' solved', none'] at all'
          rw [proceed_of_ok small solved, proceed_of_ok small' solved', none, none']
          by_cases refused : settings.exceedsLimit 0 = true
          · have measured := twins.measured settings done
            rw [if_pos refused, if_pos refused, norm]
            exact ⟨rfl, rfl, rfl, measured.history, twins.values⟩
          · rw [if_neg refused] at all all'
            rw [if_neg refused, if_neg refused]
            exact ih _ _ _ (twins.advanced done (agree none none')) all all'

/-- **Runs of renumbered problems go in step.** From corresponding values, runs that skip no pivot
end alike. -/
theorem run_renumbered (same : Layout.Renumbering layout layout')
    (positive : 0 < settings.pivotTolerance) {values values' : Array ℝ}
    (carried : Carried same.slot values values')
    (all : (run (problemOf layout settings) (fun _ => false) values).deficiency = 0)
    (all' : (run (problemOf layout' settings) (fun _ => false) values').deficiency = 0) :
    Alike same (run (problemOf layout settings) (fun _ => false) values)
      (run (problemOf layout' settings) (fun _ => false) values') :=
  Twins.proceed positive settings.budget 0 _ _ ⟨carried, .none, rfl⟩ all all'

end Renumbered

/-! ## Runs that skip nothing -/

/-- A run of one iteration skips what its correction does. -/
theorem deficiency_of_one {problem : Problem ℝ} (one : problem.settings.budget = 1)
    {values : Array ℝ}
    (clean : ∀ correction, correctionAt problem values = .ok correction → correction.skipped = 0) :
    (run problem (fun _ => false) values).deficiency = 0 := by
  rw [run, one]
  rcases iterate_cases problem (fun _ => false) 0 (State.initial values) with
    ⟨outcome, stops, ends⟩ | ⟨next, goes, _, moves⟩
  · simp only [proceed, stops]
    cases ends with
    | cancelled told => cases told
    | notFinite _ unbounded => cases unbounded
    | converged => rfl
    | noCorrection => rw [deficiency_stopAtBest]; rfl
    | refused _ _ _ _ correction solved _ => exact (Nat.zero_max _).trans (clean correction solved)
    | spent all => exact absurd (all.trans one) Nat.zero_ne_one
  · simp only [proceed, goes, deficiency_finish]
    cases moves with
    | step _ _ _ correction solved _ => exact (Nat.zero_max _).trans (clean correction solved)

/-- A single distance whose derivative for some unknown is not small is corrected without
skipping. -/
theorem clean_of_distance {layout : Layout ℝ} {settings : Settings ℝ} {values : Array ℝ}
    (single : layout.equations = 1) (wide : 1 < layout.unknowns)
    (analytic : settings.mode = .analytic) (distinct : Function.Injective layout.slotAt)
    {i : Fin layout.equations} {a b : Operand}
    (relation : (layout.boundAt i).relation = .distance a b)
    (dependent : (layout.boundAt i).columns.isEmpty = false) {partials : Partials ℝ}
    (known : a.separationPartials values b = some partials) {c : Fin layout.unknowns}
    (large : settings.pivotTolerance ≤ Partials.at partials (layout.slotAt c) * Partials.at partials
      (layout.slotAt c)) (correction : Correction layout.unknowns ℝ)
    (solved : correctionAt (problemOf layout settings) values = .ok correction) :
    correction.skipped = 0 := by
  have formula : Formulas.partials values (layout.boundAt i).relation = some partials := by
    rw [relation, Formulas.partials, known]
  rw [← Layout.entry_of_partials distinct analytic dependent formula settings.epsilon] at large
  rw [correctionAt, Correction.solve_eq] at solved
  split at solved
  case isTrue _ => cases solved
  case isFalse _ =>
    cases solved
    exact Correction.skipped_step_of_one single (single ▸ wide) _ large

end Newton

end PlanarSketch
