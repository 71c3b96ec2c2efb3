import PlanarSketch.Proofs.Newton.Best

/-!
# Runs down a path

A run can be known in advance. Suppose that values come one after the other (a path), that their
norms are finite, and that wherever the norm is not below the tolerance there is an allowed
correction, which leads to the next values, and the norm is smaller there (`Newton.Descends`). Then
a run from the first values goes down the path, until the norm is below the tolerance or the budget
is spent, and it leaves the last values it came to (`Newton.Descends.run_descended`).
-/

set_option autoImplicit false

namespace PlanarSketch

namespace Newton

variable {α : Type} [Scalar α] {problem : Problem α} {path : Nat → Array α}

/-- Corrections lead down a path of values, as long as the norm is not below the tolerance. -/
structure Descends (problem : Problem α) (path : Nat → Array α) : Prop where
  finite : ∀ k, Scalar.isFinite (normAt problem (path k)) = true
  onward : ∀ k, Scalar.lt (normAt problem (path k)) problem.settings.tolerance = false →
    ∃ correction, correctionAt problem (path k) = .ok correction ∧
      problem.settings.exceedsLimit correction.skipped = false ∧
      moved problem (path k) correction = path (k + 1)
  down : ∀ k, Scalar.lt (normAt problem (path k)) problem.settings.tolerance = false →
    Scalar.lt (normAt problem (path (k + 1))) (normAt problem (path k)) = true

/-- A run went down a path up to its values `last`. -/
structure Descended (problem : Problem α) (path : Nat → Array α) (last : Nat)
    (outcome : Outcome α) : Prop where
  within : last ≤ problem.settings.budget
  large : ∀ k < last, Scalar.lt (normAt problem (path k)) problem.settings.tolerance = false
  small : last < problem.settings.budget →
    Scalar.lt (normAt problem (path last)) problem.settings.tolerance = true
  values : outcome.values = path last
  residual : outcome.residual = some (normAt problem (path last))
  history : outcome.history.toList = (List.range (last + 1)).map fun k => normAt problem (path k)
  ending : outcome.ending =
    if Scalar.lt (normAt problem (path last)) problem.settings.tolerance then .converged
      else .exhausted

namespace Descends

variable {done : Nat} {state : State α}

/-! ## The states -/

/-- Every state of the sequence has the values of the path, and came past large norms only. -/
theorem of_stateAt (descends : Descends problem path)
    (reached : stateAt problem (path 0) done = some state) :
    state.values = path done ∧
      ∀ k < done, Scalar.lt (normAt problem (path k)) problem.settings.tolerance = false := by
  induction done generalizing state with
  | zero =>
      cases reached
      exact ⟨rfl, fun k none => absurd none (Nat.not_lt_zero k)⟩
  | succ done ih =>
      obtain ⟨before, here, moves⟩ := moves_of_stateAt_succ reached
      obtain ⟨same, earlier⟩ := ih here
      obtain ⟨_, large, _, correction, solved, _⟩ := moves
      rw [same] at large solved ⊢
      obtain ⟨other, known, _, next⟩ := descends.onward done large
      cases solved.symm.trans known
      refine ⟨next, fun k within => ?_⟩
      rcases Nat.lt_succ_iff_lt_or_eq.mp within with before | rfl
      · exact earlier k before
      · exact large

/-- What was measured before a state is the path up to it. -/
theorem measured_eq (descends : Descends problem path)
    (reached : stateAt problem (path 0) done = some state) :
    measured problem (path 0) done = (List.range done).map path := by
  induction done generalizing state with
  | zero => rfl
  | succ done ih =>
      obtain ⟨before, here, _⟩ := moves_of_stateAt_succ reached
      rw [measured_succ_of_some here, ih here, (descends.of_stateAt here).1, List.range_succ,
        List.map_append]
      rfl

/-- The norm gets smaller from each place on the path to each later one. -/
theorem lt_norm [Scalar.StrictOrder α] (descends : Descends problem path) {early late : Nat}
    (before : early < late)
    (large : ∀ k < late, Scalar.lt (normAt problem (path k)) problem.settings.tolerance = false) :
    Scalar.lt (normAt problem (path late)) (normAt problem (path early)) = true := by
  induction late with
  | zero => exact absurd before (Nat.not_lt_zero early)
  | succ late ih =>
      have last := descends.down late (large late (Nat.lt_succ_self late))
      rcases Nat.lt_succ_iff_lt_or_eq.mp before with before | rfl
      · exact Scalar.StrictOrder.lt_trans last
          (ih before fun k within => large k (Nat.lt_succ_of_lt within))
      · exact last

/-- The norm at a state of the sequence improves on the best so far. -/
theorem improves_of_stateAt [Scalar.StrictOrder α] (descends : Descends problem path)
    (reached : stateAt problem (path 0) done = some state) :
    improves (normAt problem (path done)) state.best = true := by
  have best := (remembers_of_stateAt reached).best
  rw [descends.measured_eq reached] at best
  cases found : state.best with
  | none => rfl
  | some old =>
      obtain ⟨norm, values⟩ := old
      rw [found] at best
      obtain ⟨member, rfl, _⟩ := best
      obtain ⟨k, within, rfl⟩ := List.mem_map.mp member
      exact descends.lt_norm (List.mem_range.mp within) (descends.of_stateAt reached).2

/-- With its own norm, the history of a state is that of the path up to it. -/
theorem history_record [Scalar.StrictOrder α] (descends : Descends problem path)
    (reached : stateAt problem (path 0) done = some state) :
    (state.record (normAt problem (path done))).history.toList =
      (List.range (done + 1)).map fun k => normAt problem (path k) := by
  have before := (remembers_of_stateAt reached).history
  rw [descends.measured_eq reached, List.map_map] at before
  rw [State.record, Array.toList_push, before, List.range_succ, List.map_append]
  rfl

/-! ## The run -/

/-- **A run goes down the path.** -/
theorem run_descended [Scalar.StrictOrder α] (descends : Descends problem path) :
    ∃ last, Descended problem path last (run problem (fun _ => false) (path 0)) := by
  obtain ⟨done, state, endsAt⟩ := run_endsAt problem (fun _ => false) (path 0)
  obtain ⟨same, large⟩ := descends.of_stateAt endsAt.reached
  have improves := descends.improves_of_stateAt endsAt.reached
  have history := descends.history_record endsAt.reached
  refine ⟨done, ?_⟩
  generalize run problem (fun _ => false) (path 0) = outcome at *
  cases endsAt.ends with
  | cancelled told => cases told
  | notFinite _ unbounded =>
      rw [same, descends.finite] at unbounded
      cases unbounded
  | converged _ _ small =>
      rw [same] at small ⊢
      exact ⟨endsAt.within, large, fun _ => small, rfl, rfl, history, (if_pos small).symm⟩
  | noCorrection _ _ still _ cause unsolved =>
      rw [same] at still unsolved
      obtain ⟨_, solved, _, _⟩ := descends.onward done still
      cases unsolved.symm.trans solved
  | refused _ _ still _ correction solved excessive =>
      rw [same] at still solved
      obtain ⟨_, solved', allowed, _⟩ := descends.onward done still
      cases solved.symm.trans solved'
      cases allowed.symm.trans excessive
  | spent all =>
      have last : finishing problem state = state.record (normAt problem (path done)) := by
        rw [finishing, same, descends.finite, improves]
        rfl
      have best : (state.record (normAt problem (path done))).best =
          some (normAt problem (path done), path done) := by
        rw [State.record, if_pos improves, same]
      rw [finish_eq, last, best, State.stopAtBest, best]
      exact ⟨endsAt.within, large, fun unspent => absurd all unspent.ne, rfl, rfl, history, rfl⟩

end Descends

end Newton

end PlanarSketch
