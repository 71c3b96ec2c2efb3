import Mathlib.Data.List.Basic
import PlanarSketch.Newton
import PlanarSketch.Proofs.Jacobian.InPlace

/-!
# How a run goes and how it ends

A run that is not told to stop is a sequence of states (`Newton.stateAt`): each one follows from the
one before by a correction (`Newton.Moves`), until an iteration has no next state. Being told to
stop does not change that sequence, it only cuts it off.

So a run is known when the state it ends in is known, and the way it ends there. There are six ways
(`Newton.Ends`), and every run ends in one of them at a state of the sequence (`Newton.run_endsAt`).
Facts about whole runs are proved from this: an invariant of the sequence, then six cases.
-/

set_option autoImplicit false

namespace PlanarSketch

variable {α : Type}

/-- The state after an iteration, unless the iteration ended the run. -/
def Newton.Step.next? : Newton.Step α → Option (Newton.State α)
  | .stop _ => none
  | .next state => some state

namespace Newton

variable [Scalar α]

/-! ## One iteration -/

/-- Derivatives are taken in place, which leaves the values: they can be read row by row instead. -/
theorem correct_eq (problem : Problem α) (iteration : Nat) (norm : α)
    (residuals : Vector α problem.layout.equations) (state : State α) :
    correct problem iteration norm residuals state =
      let settings := problem.settings
      let jacobian := Jacobian.build problem.layout settings.mode settings.epsilon problem.formulas
        state.values (some residuals)
      let state := state.noteDifferences iteration jacobian.firstDifference
      match Correction.solve settings.pivotTolerance jacobian.matrix residuals with
      | .error cause => .stop (state.stopAtBest (.failed (.noCorrection cause)) iteration)
      | .ok correction =>
        let state := state.noteCorrection iteration norm correction
        if settings.exceedsLimit correction.skipped then
          .stop (state.stop (.failed (.rankDeficient iteration correction.skipped)) iteration
            (some norm) state.values)
        else
          .next { state with
            values := problem.layout.advance settings.damping correction.delta state.values } := by
  have same := Jacobian.fill_eq problem.layout problem.settings.mode problem.settings.epsilon
    problem.formulas state.values (some residuals)
  unfold correct
  dsimp only
  generalize Jacobian.fill problem.layout problem.settings.mode problem.settings.epsilon
    problem.formulas state.values (some residuals) = filled at same ⊢
  subst same
  rfl

/-- The correction at given values. -/
def correctionAt (problem : Problem α) (values : Array α) :
    Except LinearFailure (Correction problem.layout.unknowns α) :=
  let residuals := problem.layout.residuals values
  let jacobian := Jacobian.build problem.layout problem.settings.mode problem.settings.epsilon
    problem.formulas values (some residuals)
  Correction.solve problem.settings.pivotTolerance jacobian.matrix residuals

/-- The part of a correction that is applied, at given values. -/
def moved (problem : Problem α) (values : Array α)
    (correction : Correction problem.layout.unknowns α) : Array α :=
  problem.layout.advance problem.settings.damping correction.delta values

/-- An iteration leads from one state to the next: its norm is finite and not below the tolerance,
and there is a correction that skips no more pivots than allowed. -/
inductive Moves (problem : Problem α) (done : Nat) (state : State α) : State α → Prop where
  | step (finite : Scalar.isFinite (normAt problem state.values) = true)
      (large : Scalar.lt (normAt problem state.values) problem.settings.tolerance = false)
      (row : Option Nat) (correction : Correction problem.layout.unknowns α)
      (solved : correctionAt problem state.values = .ok correction)
      (allowed : problem.settings.exceedsLimit correction.skipped = false) :
      Moves problem done state
        { ((state.record (normAt problem state.values)).noteDifferences
              (done + 1) row).noteCorrection
            (done + 1) (normAt problem state.values) correction with
          values := moved problem state.values correction }

/-- The six ways a run ends in a state reached by `done` iterations: told to stop, measuring a norm
that is not finite, measuring a small one, without a correction, with a correction refused, and with
the budget spent. -/
inductive Ends (problem : Problem α) (polls : Nat → Bool) (done : Nat) (state : State α) :
    Outcome α → Prop where
  | cancelled (told : polls done = true) :
      Ends problem polls done state
        (state.stop .cancelled done (some (normAt problem state.values)) state.values)
  | notFinite (untold : polls done = false)
      (unbounded : Scalar.isFinite (normAt problem state.values) = false) :
      Ends problem polls done state
        (state.stopAtBest (.failed (.residualNotFinite (done + 1))) (done + 1))
  | converged (untold : polls done = false)
      (finite : Scalar.isFinite (normAt problem state.values) = true)
      (small : Scalar.lt (normAt problem state.values) problem.settings.tolerance = true) :
      Ends problem polls done state
        ((state.record (normAt problem state.values)).stop .converged (done + 1)
          (some (normAt problem state.values)) state.values)
  | noCorrection (untold : polls done = false)
      (finite : Scalar.isFinite (normAt problem state.values) = true)
      (large : Scalar.lt (normAt problem state.values) problem.settings.tolerance = false)
      (row : Option Nat) (cause : LinearFailure)
      (unsolved : correctionAt problem state.values = .error cause) :
      Ends problem polls done state
        (((state.record (normAt problem state.values)).noteDifferences (done + 1) row).stopAtBest
          (.failed (.noCorrection cause)) (done + 1))
  | refused (untold : polls done = false)
      (finite : Scalar.isFinite (normAt problem state.values) = true)
      (large : Scalar.lt (normAt problem state.values) problem.settings.tolerance = false)
      (row : Option Nat) (correction : Correction problem.layout.unknowns α)
      (solved : correctionAt problem state.values = .ok correction)
      (excessive : problem.settings.exceedsLimit correction.skipped = true) :
      Ends problem polls done state
        ((((state.record (normAt problem state.values)).noteDifferences
              (done + 1) row).noteCorrection
            (done + 1) (normAt problem state.values) correction).stop
          (.failed (.rankDeficient (done + 1) correction.skipped)) (done + 1)
          (some (normAt problem state.values)) state.values)
  | spent (all : done = problem.settings.budget) :
      Ends problem polls done state (finish problem done state)

/-- An iteration ends the run in one of the ways, or leads to the next state. -/
theorem iterate_cases (problem : Problem α) (polls : Nat → Bool) (done : Nat) (state : State α) :
    (∃ outcome, iterate problem (polls done) done state = .stop outcome ∧
      Ends problem polls done state outcome) ∨
    (∃ next, iterate problem (polls done) done state = .next next ∧ polls done = false ∧
      Moves problem done state next) := by
  unfold iterate
  dsimp only
  split
  case isTrue told => exact .inl ⟨_, rfl, .cancelled told⟩
  case isFalse notTold =>
    have untold : polls done = false := Bool.eq_false_iff.mpr notTold
    split
    case isFalse unbounded =>
      exact .inl ⟨_, rfl, .notFinite untold (Bool.eq_false_iff.mpr unbounded)⟩
    case isTrue finite =>
      split
      case isTrue small => exact .inl ⟨_, rfl, .converged untold finite small⟩
      case isFalse notSmall =>
        have large := Bool.eq_false_iff.mpr notSmall
        rw [correct_eq]
        dsimp only
        split
        case h_1 cause unsolved =>
          exact .inl ⟨_, rfl, .noCorrection untold finite large _ cause unsolved⟩
        case h_2 correction solved =>
          split
          case isTrue excessive =>
            exact .inl ⟨_, rfl, .refused untold finite large _ correction solved excessive⟩
          case isFalse allowed =>
            exact .inr ⟨_, rfl, untold,
              .step finite large _ correction solved (Bool.eq_false_iff.mpr allowed)⟩

/-! ## The sequence of states -/

/-- The state of a run after `done` iterations when nothing tells it to stop; none when it ends
before. -/
def stateAt (problem : Problem α) (values : Array α) : Nat → Option (State α)
  | 0 => some (State.initial values)
  | done + 1 =>
    (stateAt problem values done).bind fun state => (iterate problem false done state).next?

theorem stateAt_zero (problem : Problem α) (values : Array α) :
    stateAt problem values 0 = some (State.initial values) := rfl

/-- The values after `done` corrections. -/
def valuesAt (problem : Problem α) (values : Array α) (done : Nat) : Option (Array α) :=
  (stateAt problem values done).map State.values

/-- The values measured by the first `count` iterations, in order. -/
def measured (problem : Problem α) (values : Array α) (count : Nat) : List (Array α) :=
  (List.range count).filterMap (valuesAt problem values)

variable {problem : Problem α} {values : Array α}

/-- A later state of the sequence comes from the state before it. -/
theorem moves_of_stateAt_succ {done : Nat} {next : State α}
    (reached : stateAt problem values (done + 1) = some next) :
    ∃ state, stateAt problem values done = some state ∧ Moves problem done state next := by
  obtain ⟨state, here, step⟩ := Option.bind_eq_some_iff.mp reached
  refine ⟨state, here, ?_⟩
  rcases iterate_cases problem (fun _ => false) done state with ⟨_, stops, _⟩ |
    ⟨other, goes, _, moves⟩
  · rw [stops] at step
    cases step
  · rw [goes] at step
    cases step
    exact moves

theorem stateAt_eq_none_of_le {done later : Nat} (ended : stateAt problem values done = none)
    (le : done ≤ later) : stateAt problem values later = none := by
  induction le with
  | refl => exact ended
  | step _ ih => rw [stateAt, ih, Option.bind_none]

theorem measured_succ_of_some {done : Nat} {state : State α}
    (reached : stateAt problem values done = some state) :
    measured problem values (done + 1) = measured problem values done ++ [state.values] := by
  simp [measured, List.range_succ, valuesAt, reached]

/-- After the last state nothing more is measured. -/
theorem measured_of_le {done count : Nat} (ended : stateAt problem values done = none)
    (le : done ≤ count) : measured problem values count = measured problem values done := by
  induction le with
  | refl => rfl
  | step le ih =>
      rw [← ih]
      simp [measured, List.range_succ, valuesAt, stateAt_eq_none_of_le ended le]

/-! ## How a run ends -/

/-- A run ends with an outcome in the state of the sequence that `done` iterations reach. Nothing
told it to stop before. -/
structure EndsAt (problem : Problem α) (polls : Nat → Bool) (values : Array α) (done : Nat)
    (state : State α) (outcome : Outcome α) : Prop where
  within : done ≤ problem.settings.budget
  reached : stateAt problem values done = some state
  untold : ∀ earlier < done, polls earlier = false
  ends : Ends problem polls done state outcome
  /-- Unless it was told to stop or the budget was spent, there is no next state. -/
  last : polls done = false → done < problem.settings.budget →
    stateAt problem values (done + 1) = none

/-- What is left of a run ends in a state of the sequence. -/
theorem proceed_endsAt (polls : Nat → Bool) (left done : Nat) (state : State α)
    (total : done + left = problem.settings.budget)
    (reached : stateAt problem values done = some state)
    (untold : ∀ earlier < done, polls earlier = false) :
    ∃ last final, EndsAt problem polls values last final
      (proceed problem polls left done state) := by
  -- On what is left of the budget. The state stays one of the sequence, since nothing told the run
  -- to stop.
  induction left generalizing done state with
  | zero =>
      refine ⟨done, state, by omega, reached, untold, .spent (by omega), ?_⟩
      intro _ unspent
      omega
  | succ left ih =>
      rcases iterate_cases problem polls done state with
        ⟨outcome, stops, ends⟩ | ⟨next, goes, go, _⟩
      · refine ⟨done, state, by omega, reached, untold, ?_, ?_⟩
        · rw [proceed, stops]
          exact ends
        · intro go _
          rw [go] at stops
          rw [stateAt, reached, Option.bind_some, stops, Step.next?]
      · have onward : stateAt problem values (done + 1) = some next := by
          rw [go] at goes
          rw [stateAt, reached, Option.bind_some, goes, Step.next?]
        have still : ∀ earlier < done + 1, polls earlier = false := by
          intro earlier before
          rcases Nat.lt_succ_iff_lt_or_eq.mp before with before | rfl
          · exact untold earlier before
          · exact go
        obtain ⟨last, final, endsAt⟩ := ih (done + 1) next (by omega) onward still
        refine ⟨last, final, ?_⟩
        rw [proceed, goes]
        exact endsAt

/-- **Every run ends in a state of the sequence, in one of the six ways.** -/
theorem run_endsAt (problem : Problem α) (polls : Nat → Bool) (values : Array α) :
    ∃ done state, EndsAt problem polls values done state (run problem polls values) := by
  refine proceed_endsAt polls problem.settings.budget 0 _ (by omega) rfl ?_
  intro earlier before
  omega

end Newton

end PlanarSketch
