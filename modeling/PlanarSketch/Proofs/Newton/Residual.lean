import PlanarSketch.Proofs.Newton.Best

/-!
# What a run reports of itself

The values a run leaves are among those it measured (`Newton.run_values_mem`), so what holds at the
start and is kept by applying corrections holds at the end (`Newton.run_values_induction`).

The residual a run reports is the norm at the values it leaves, or absent when not even the first
norm was finite (`Newton.run_residual`). Leaving aside runs that were told to stop, a run converged
exactly when the residual it reports is below the tolerance (`Newton.run_converged_iff`). The values
a converged run leaves have a finite norm below the tolerance (`Newton.run_converged`), and a run
from such values ends at once (`Newton.run_of_small`).
-/

set_option autoImplicit false

namespace PlanarSketch

namespace Newton

variable {α : Type} [Scalar α]

/-! ## The values left -/

section Values

variable {problem : Problem α} {values : Array α}

theorem values_mem_measured {done count : Nat} {state : State α}
    (reached : stateAt problem values done = some state) (before : done < count) :
    state.values ∈ measured problem values count := by
  refine List.mem_filterMap.mpr ⟨done, List.mem_range.mpr before, ?_⟩
  rw [valuesAt, reached, Option.map_some]

theorem initial_mem_measured (problem : Problem α) (values : Array α) {count : Nat}
    (positive : 0 < count) : values ∈ measured problem values count :=
  values_mem_measured (stateAt_zero problem values) positive

theorem measured_mono {few many : Nat} (le : few ≤ many) :
    measured problem values few ⊆ measured problem values many := by
  intro other member
  obtain ⟨done, within, found⟩ := List.mem_filterMap.mp member
  refine List.mem_filterMap.mpr ⟨done, ?_, found⟩
  rw [List.mem_range] at within ⊢
  omega

theorem values_stopAtBest {seen : List (Array α)} {state : State α}
    (best : Best problem seen state.best) (ending : Ending) (done : Nat) :
    (state.stopAtBest ending done).values ∈ seen ++ [state.values] := by
  cases found : state.best with
  | none => simp [State.stopAtBest, State.stop, found]
  | some old =>
      obtain ⟨norm, values⟩ := old
      rw [found] at best
      simp only [State.stopAtBest, State.stop, found]
      exact List.mem_append_left _ best.1

theorem values_finishing (state : State α) : (finishing problem state).values = state.values := by
  unfold finishing
  split <;> rfl

end Values

/-- **The values a run leaves are among those it measured.** -/
theorem run_values_mem [Scalar.StrictOrder α] (problem : Problem α) (polls : Nat → Bool)
    (values : Array α) :
    (run problem polls values).values ∈ measured problem values (problem.settings.budget + 1) := by
  obtain ⟨done, state, endsAt⟩ := run_endsAt problem polls values
  have remembers := remembers_of_stateAt endsAt.reached
  apply measured_mono (Nat.succ_le_succ endsAt.within)
  rw [measured_succ_of_some endsAt.reached]
  generalize run problem polls values = outcome at *
  cases endsAt.ends with
  | cancelled told => simp [State.stop]
  | notFinite go unbounded => exact values_stopAtBest remembers.best _ _
  | converged go finite small => simp [State.stop]
  | noCorrection go finite large row cause unsolved =>
      have noted := (remembers_record remembers finite large).noteDifferences (done + 1) row
      have member := values_stopAtBest noted.best (.failed (.noCorrection cause)) (done + 1)
      rcases List.mem_append.mp member with seen | own
      · exact seen
      · exact List.mem_append_right _ own
  | refused go finite large row correction solved excessive => simp [State.stop]
  | spent all =>
      rw [finish_eq]
      have finished : Best problem _ (finishing problem state).best := best_finishing remembers.best
      have member :=
        values_stopAtBest finished (verdict problem (finishing problem state).best) done
      rw [values_finishing] at member
      simp only [List.mem_append, List.mem_filter] at member ⊢
      rcases member with (before | ⟨own, _⟩) | own
      · exact .inl before
      · exact .inr own
      · exact .inr own

/-- Applying the corrections at hand keeps what holds of values, so it holds of all that are
measured. -/
theorem measured_induction {problem : Problem α} {values : Array α} (holds : Array α → Prop)
    (initial : holds values)
    (step : ∀ before correction, correctionAt problem before = .ok correction → holds before →
      holds (moved problem before correction))
    {count : Nat} : ∀ other ∈ measured problem values count, holds other := by
  have states : ∀ done state, stateAt problem values done = some state → holds state.values := by
    intro done
    induction done with
    | zero =>
        rintro state ⟨⟩
        exact initial
    | succ done ih =>
        intro state reached
        obtain ⟨before, here, moves⟩ := moves_of_stateAt_succ reached
        obtain ⟨_, _, _, correction, solved, _⟩ := moves
        exact step before.values correction solved (ih before here)
  intro other member
  obtain ⟨done, _, found⟩ := List.mem_filterMap.mp member
  obtain ⟨state, reached, rfl⟩ := Option.map_eq_some_iff.mp found
  exact states done state reached

/-- **What applying corrections keeps holds of the values a run leaves.** -/
theorem run_values_induction [Scalar.StrictOrder α] (problem : Problem α) (polls : Nat → Bool)
    (values : Array α) (holds : Array α → Prop) (initial : holds values)
    (step : ∀ before correction, correctionAt problem before = .ok correction → holds before →
      holds (moved problem before correction)) :
    holds (run problem polls values).values :=
  measured_induction holds initial step _ (run_values_mem problem polls values)

/-! ## The residual reported -/

variable {problem : Problem α} {values : Array α}

/-- When the first norm is not finite nothing else is measured. -/
theorem measured_of_unbounded (unbounded : Scalar.isFinite (normAt problem values) = false)
    {count : Nat} (positive : 0 < count) : measured problem values count = [values] := by
  have ended : stateAt problem values 1 = none := by
    by_contra more
    obtain ⟨next, reached⟩ := Option.ne_none_iff_exists'.mp more
    obtain ⟨state, here, moves⟩ := moves_of_stateAt_succ reached
    cases here
    obtain ⟨finite, _, _, _, _, _⟩ := moves
    rw [State.initial, unbounded] at finite
    cases finite
  rw [measured_of_le ended positive, measured_succ_of_some (stateAt_zero problem values)]
  rfl

theorem initial_mem_usable (finite : Scalar.isFinite (normAt problem values) = true) :
    values ∈ usable problem values :=
  List.mem_filter.mpr ⟨initial_mem_measured problem values (Nat.succ_pos _), finite⟩

/-- A run measures a finite norm exactly when the first one is finite. -/
theorem usable_eq_nil_iff : usable problem values = [] ↔
    Scalar.isFinite (normAt problem values) = false := by
  constructor
  · intro empty
    by_contra finite
    have member := initial_mem_usable (Bool.of_not_eq_false finite)
    rw [empty] at member
    cases member
  · intro unbounded
    rw [usable, measured_of_unbounded unbounded (by omega)]
    simp [unbounded]

/-- A run that converged or spent its budget leaves the best of what it measured. -/
theorem run_keeps [Scalar.StrictOrder α] {polls : Nat → Bool}
    (ended : (run problem polls values).ending = .exhausted ∨
      (run problem polls values).ending = .converged)
    (finite : Scalar.isFinite (normAt problem values) = true) :
    KeepsBest problem values (run problem polls values) := by
  have nonempty := List.ne_nil_of_mem (initial_mem_usable finite)
  refine (run_keepsBest_iff problem polls values ?_ nonempty).mpr (not_uphill ?_)
  · rcases ended with same | same <;> simp [same]
  · rcases ended with same | same <;> simp [same]

/-- **A run that is not told to stop does not make things worse, except uphill.** -/
theorem run_not_worse [Scalar.StrictOrder α] (problem : Problem α) (polls : Nat → Bool)
    (values : Array α) (untold : (run problem polls values).ending ≠ .cancelled)
    (level : ¬ Uphill (run problem polls values).ending (run problem polls values).history.toList
      (run problem polls values).residual) :
    Scalar.lt (normAt problem values)
      (normAt problem (run problem polls values).values) = false := by
  cases finite : Scalar.isFinite (normAt problem values) with
  | false =>
      have left := run_values_mem problem polls values
      rw [measured_of_unbounded finite (by omega), List.mem_singleton] at left
      rw [left]
      exact Scalar.StrictOrder.lt_self _
  | true =>
      have first := initial_mem_usable finite
      have keeps :=
        (run_keepsBest_iff problem polls values untold (List.ne_nil_of_mem first)).mpr level
      exact keeps.least values first

/-- Stopping at the best values reports their norm, and nothing when there are none. -/
theorem residual_stopAtBest {seen : List (Array α)} {state : State α}
    (best : Best problem seen state.best) (ending : Ending) (done : Nat) :
    (state.stopAtBest ending done).residual =
      if seen = [] then none else some (normAt problem (state.stopAtBest ending done).values) := by
  by_cases empty : seen = []
  · cases found : state.best with
    | none => simp [State.stopAtBest, State.stop, found, empty]
    | some old =>
        rw [found] at best
        have member := best.1
        rw [empty] at member
        cases member
  · rw [if_neg empty, (keeps_stopAtBest best empty ending done).residual]

/-- **The residual a run reports is the norm at the values it leaves.** It is absent when the first
norm measured is not finite and the run was not told to stop. -/
theorem run_residual [Scalar.StrictOrder α] (problem : Problem α) (polls : Nat → Bool)
    (values : Array α) :
    (run problem polls values).residual =
      if (run problem polls values).ending = .cancelled ∨
      Scalar.isFinite (normAt problem values) = true
      then some (normAt problem (run problem polls values).values) else none := by
  obtain ⟨done, state, endsAt⟩ := run_endsAt problem polls values
  have remembers := remembers_of_stateAt endsAt.reached
  have nonempty : Scalar.isFinite (normAt problem values) = true ↔ usable problem values ≠ [] := by
    rw [Ne, usable_eq_nil_iff, Bool.not_eq_false]
  simp only [nonempty]
  generalize run problem polls values = outcome at *
  cases endsAt.ends with
  | cancelled told => simp [State.stop]
  | notFinite go unbounded =>
      have seen : usable problem values = measured problem values done := by
        rw [usable_of_endsAt endsAt fun _ => go]
        simp [unbounded]
      rw [residual_stopAtBest remembers.best, seen]
      simp
  | converged go finite small =>
      rw [usable_of_finite endsAt go finite]
      simp [State.stop]
  | noCorrection go finite large row cause unsolved =>
      have noted := (remembers_record remembers finite large).noteDifferences (done + 1) row
      rw [residual_stopAtBest noted.best, usable_of_finite endsAt go finite]
      simp
  | refused go finite large row correction solved excessive =>
      rw [usable_of_finite endsAt go finite]
      simp [State.stop]
  | spent all =>
      rw [finish_eq, residual_stopAtBest (best_finishing remembers.best),
        ← usable_of_endsAt endsAt (by omega), ending_stopAtBest]
      rcases verdict_cases problem (finishing problem state).best with same | same <;> simp [same]

theorem residual_stopAtBest_large {seen : List (Array α)} {state : State α}
    (remembers : Remembers problem seen state) (ending : Ending) (done : Nat) {residual : α}
    (reported : (state.stopAtBest ending done).residual = some residual) :
    Scalar.lt residual problem.settings.tolerance = false := by
  rw [residual_stopAtBest remembers.best] at reported
  split at reported
  case isTrue empty => cases reported
  case isFalse nonempty =>
    cases reported
    exact remembers.large _ (keeps_stopAtBest remembers.best nonempty ending done).among

/-- **A run that was not told to stop converged exactly when its residual is below the
tolerance.** -/
theorem run_converged_iff [Scalar.StrictOrder α] (problem : Problem α) (polls : Nat → Bool)
    (values : Array α) (untold : (run problem polls values).ending ≠ .cancelled) :
    (run problem polls values).ending = .converged ↔
      ∃ residual, (run problem polls values).residual = some residual ∧
        Scalar.lt residual problem.settings.tolerance = true := by
  obtain ⟨done, state, endsAt⟩ := run_endsAt problem polls values
  have remembers := remembers_of_stateAt endsAt.reached
  generalize run problem polls values = outcome at *
  cases endsAt.ends with
  | cancelled told => exact absurd rfl untold
  | notFinite go unbounded =>
      rw [ending_stopAtBest]
      refine iff_of_false (by simp) ?_
      rintro ⟨residual, reported, small⟩
      rw [residual_stopAtBest_large remembers _ _ reported] at small
      cases small
  | converged go finite small => exact iff_of_true rfl ⟨_, rfl, small⟩
  | noCorrection go finite large row cause unsolved =>
      rw [ending_stopAtBest]
      refine iff_of_false (by simp) ?_
      rintro ⟨residual, reported, small⟩
      have noted := (remembers_record remembers finite large).noteDifferences (done + 1) row
      rw [residual_stopAtBest_large noted _ _ reported] at small
      cases small
  | refused go finite large row correction solved excessive =>
      refine iff_of_false (by simp [State.stop]) ?_
      rintro ⟨_, ⟨⟩, small⟩
      rw [large] at small
      cases small
  | spent all =>
      rw [finish_eq, ending_stopAtBest]
      cases found : (finishing problem state).best with
      | none => simp [verdict, State.stopAtBest, State.stop, found]
      | some best =>
          simp only [verdict, State.stopAtBest, State.stop, found]
          split
          case isTrue small => exact iff_of_true rfl ⟨_, rfl, small⟩
          case isFalse large =>
            refine iff_of_false (by simp) ?_
            rintro ⟨_, ⟨⟩, small⟩
            exact large small

/-! ## Runs that converged -/

/-- **A run that converged leaves values with a finite norm below the tolerance, and reports that
norm.** -/
theorem run_converged [Scalar.StrictOrder α] {polls : Nat → Bool}
    (converged : (run problem polls values).ending = .converged) :
    (run problem polls values).residual = some (normAt problem (run problem polls values).values) ∧
      Scalar.isFinite (normAt problem (run problem polls values).values) = true ∧
      Scalar.lt (normAt problem (run problem polls values).values)
        problem.settings.tolerance = true := by
  have untold : (run problem polls values).ending ≠ .cancelled := by
    rw [converged]
    nofun
  obtain ⟨residual, reported, small⟩ := (run_converged_iff problem polls values untold).mp converged
  have same := run_residual problem polls values
  rw [reported] at same
  split at same
  case isFalse _ => cases same
  case isTrue measured =>
    cases same
    refine ⟨reported, ?_, small⟩
    have first : Scalar.isFinite (normAt problem values) = true := measured.resolve_left untold
    exact (List.mem_filter.mp (run_keeps (.inr converged) first).among).2

/-- An untold iteration at values with a finite norm below the tolerance ends with them. -/
theorem iterate_of_small {done : Nat} {state : State α}
    (finite : Scalar.isFinite (normAt problem state.values) = true)
    (small : Scalar.lt (normAt problem state.values) problem.settings.tolerance = true) :
    iterate problem false done state =
      .stop ((state.record (normAt problem state.values)).stop .converged (done + 1)
        (some (normAt problem state.values)) state.values) := by
  rw [iterate, if_neg Bool.false_ne_true]
  exact (if_pos finite).trans (if_pos small)

/-- A run from values with a finite norm below the tolerance ends with them in its first
iteration. -/
theorem run_of_small {polls : Nat → Bool} (budget : 0 < problem.settings.budget)
    (untold : polls 0 = false) (finite : Scalar.isFinite (normAt problem values) = true)
    (small : Scalar.lt (normAt problem values) problem.settings.tolerance = true) :
    run problem polls values =
      ((State.initial values).record (normAt problem values)).stop .converged 1
        (some (normAt problem values)) values := by
  obtain ⟨left, same⟩ := Nat.exists_eq_succ_of_ne_zero (Nat.pos_iff_ne_zero.mp budget)
  rw [run, same, proceed, untold]
  have stops : iterate problem false 0 (State.initial values) = _ := iterate_of_small finite small
  rw [stops]
  rfl

end Newton

end PlanarSketch
