import PlanarSketch.Proofs.Newton.Run
import PlanarSketch.Proofs.Number.Order

/-!
# The best values measured

A run remembers the smallest finite norm it has measured, with values that have it. What it
remembers is right in every state of the sequence (`Newton.remembers_of_stateAt`): the history holds
the norms of all values measured before, and the best is one of them with none below it
(`Newton.Best`).

A run that is not told to stop should leave the best of everything it measured (`Newton.KeepsBest`),
where a norm that is not finite does not count. It does so in five of the six ways to end, and in
the sixth, a refused correction, it leaves the values it has, which are the best only when no
earlier norm is smaller.
-/

set_option autoImplicit false

namespace PlanarSketch

namespace Newton

variable {α : Type} [Scalar α]

/-! ## What a state remembers -/

/-- The best of the values seen so far, with its norm; none when nothing was seen. -/
def Best (problem : Problem α) (seen : List (Array α)) : Option (α × Array α) → Prop
  | none => seen = []
  | some (norm, values) =>
    values ∈ seen ∧ norm = normAt problem values ∧
      ∀ other ∈ seen, Scalar.lt (normAt problem other) norm = false

/-- A state remembers the values seen before it: all their norms, which are finite and not below the
tolerance, and the best of them. -/
structure Remembers (problem : Problem α) (seen : List (Array α)) (state : State α) : Prop where
  history : state.history.toList = seen.map (normAt problem)
  finite : ∀ values ∈ seen, Scalar.isFinite (normAt problem values) = true
  large : ∀ values ∈ seen, Scalar.lt (normAt problem values) problem.settings.tolerance = false
  best : Best problem seen state.best

variable {problem : Problem α}

theorem remembers_initial (values : Array α) : Remembers problem [] (State.initial values) where
  history := rfl
  finite := by simp
  large := by simp
  best := rfl

/-- Noting a norm keeps the best of what was seen and the state's own values. -/
theorem best_record [Scalar.StrictOrder α] {seen : List (Array α)} {state : State α}
    (best : Best problem seen state.best) :
    Best problem (seen ++ [state.values]) (state.record (normAt problem state.values)).best := by
  simp only [State.record]
  split
  case isTrue better =>
    -- None was below the old best, and the new norm is.
    refine ⟨by simp, rfl, ?_⟩
    intro other member
    rcases List.mem_append.mp member with before | here
    · cases found : state.best with
      | none =>
          rw [found] at best
          rw [show seen = [] from best] at before
          cases before
      | some old =>
          obtain ⟨norm, values⟩ := old
          rw [found] at best better
          exact Scalar.not_lt_of_not_lt_of_lt (best.2.2 other before) better
    · rw [List.mem_singleton.mp here]
      exact Scalar.StrictOrder.lt_self _
  case isFalse worse =>
    cases found : state.best with
    | none =>
        rw [found] at worse
        exact absurd rfl worse
    | some old =>
        obtain ⟨norm, values⟩ := old
        rw [found] at best worse
        refine ⟨List.mem_append_left _ best.1, best.2.1, ?_⟩
        intro other member
        rcases List.mem_append.mp member with before | here
        · exact best.2.2 other before
        · rw [List.mem_singleton.mp here]
          exact Bool.eq_false_iff.mpr worse

/-- Noting a finite norm that is not below the tolerance, a state remembers its own values too. -/
theorem remembers_record [Scalar.StrictOrder α] {seen : List (Array α)} {state : State α}
    (remembers : Remembers problem seen state)
    (finite : Scalar.isFinite (normAt problem state.values) = true)
    (large : Scalar.lt (normAt problem state.values) problem.settings.tolerance = false) :
    Remembers problem (seen ++ [state.values]) (state.record (normAt problem state.values)) where
  history := by simp [State.record, remembers.history]
  finite := by
    intro values member
    rcases List.mem_append.mp member with before | here
    · exact remembers.finite values before
    · rw [List.mem_singleton.mp here]
      exact finite
  large := by
    intro values member
    rcases List.mem_append.mp member with before | here
    · exact remembers.large values before
    · rw [List.mem_singleton.mp here]
      exact large
  best := best_record remembers.best

theorem Remembers.noteDifferences {seen : List (Array α)} {state : State α}
    (remembers : Remembers problem seen state) (iteration : Nat) (row : Option Nat) :
    Remembers problem seen (state.noteDifferences iteration row) :=
  ⟨remembers.history, remembers.finite, remembers.large, remembers.best⟩

theorem Remembers.noteCorrection {n : Nat} {seen : List (Array α)} {state : State α}
    (remembers : Remembers problem seen state) (iteration : Nat) (norm : α)
    (correction : Correction n α) :
    Remembers problem seen (state.noteCorrection iteration norm correction) :=
  ⟨remembers.history, remembers.finite, remembers.large, remembers.best⟩

theorem Moves.remembers [Scalar.StrictOrder α] {seen : List (Array α)} {done : Nat}
    {state next : State α} (moves : Moves problem done state next)
    (remembers : Remembers problem seen state) :
    Remembers problem (seen ++ [state.values]) next := by
  obtain ⟨finite, large, row, correction, _, _⟩ := moves
  have noted :=
    ((remembers_record remembers finite large).noteDifferences (done + 1) row).noteCorrection
    (done + 1) (normAt problem state.values) correction
  exact ⟨noted.history, noted.finite, noted.large, noted.best⟩

/-- **Every state of a run remembers what was measured before it.** -/
theorem remembers_of_stateAt [Scalar.StrictOrder α] {values : Array α} {done : Nat}
    {state : State α} (reached : stateAt problem values done = some state) :
    Remembers problem (measured problem values done) state := by
  induction done generalizing state with
  | zero =>
      cases reached
      exact remembers_initial values
  | succ done ih =>
      obtain ⟨before, here, moves⟩ := moves_of_stateAt_succ reached
      rw [measured_succ_of_some here]
      exact moves.remembers (ih here)

/-! ## What a run leaves -/

/-- An outcome leaves the best of the values seen, with its norm as the residual. -/
structure Keeps (problem : Problem α) (seen : List (Array α)) (outcome : Outcome α) : Prop where
  among : outcome.values ∈ seen
  residual : outcome.residual = some (normAt problem outcome.values)
  least : ∀ other ∈ seen, Scalar.lt (normAt problem other) (normAt problem outcome.values) = false

/-- The values with a finite norm among those that a run measures when nothing tells it to stop.
After the last iteration of its budget a run measures once more. -/
def usable (problem : Problem α) (values : Array α) : List (Array α) :=
  (measured problem values (problem.settings.budget + 1)).filter fun other =>
    Scalar.isFinite (normAt problem other)

/-- An outcome leaves the best of all the values that the run measured. -/
def KeepsBest (problem : Problem α) (values : Array α) (outcome : Outcome α) : Prop :=
  Keeps problem (usable problem values) outcome

/-- Stopping at the best values keeps them. -/
theorem keeps_stopAtBest {seen : List (Array α)} {state : State α}
    (best : Best problem seen state.best) (nonempty : seen ≠ []) (ending : Ending) (done : Nat) :
    Keeps problem seen (state.stopAtBest ending done) := by
  cases found : state.best with
  | none =>
      rw [found] at best
      exact absurd best nonempty
  | some old =>
      obtain ⟨norm, values⟩ := old
      rw [found] at best
      obtain ⟨member, same, least⟩ := best
      subst same
      simp only [State.stopAtBest, found]
      exact ⟨member, rfl, least⟩

/-- The state of a run whose budget is spent, with the last values measured. -/
def finishing (problem : Problem α) (state : State α) : State α :=
  if Scalar.isFinite (normAt problem state.values) && improves
    (normAt problem state.values) state.best
  then state.record (normAt problem state.values) else state

theorem best_finishing [Scalar.StrictOrder α] {seen : List (Array α)} {state : State α}
    (best : Best problem seen state.best) :
    Best problem
      (seen ++ [state.values].filter fun other => Scalar.isFinite (normAt problem other))
      (finishing problem state).best := by
  by_cases finite : Scalar.isFinite (normAt problem state.values) = true
  · have noted := best_record best
    by_cases better : improves (normAt problem state.values) state.best = true
    · simpa [finishing, finite, better] using noted
    · simpa [finishing, State.record, finite, better] using noted
  · simpa [finishing, finite] using best

/-- How a run ends whose budget is spent, by the best norm. -/
def verdict (problem : Problem α) : Option (α × Array α) → Ending
  | some best => if Scalar.lt best.1 problem.settings.tolerance then .converged else .exhausted
  | none => .exhausted

/-- A run whose budget is spent stops at the best values, the last ones included. -/
theorem finish_eq (problem : Problem α) (done : Nat) (state : State α) :
    finish problem done state =
      (finishing problem state).stopAtBest (verdict problem (finishing problem state).best) done :=
        rfl

theorem verdict_cases (problem : Problem α) (best : Option (α × Array α)) :
    verdict problem best = .converged ∨ verdict problem best = .exhausted := by
  unfold verdict
  split
  · split
    · exact .inl rfl
    · exact .inr rfl
  · exact .inr rfl

/-- A run that was not told to stop measured the values before its last state, and those of that
state if their norm is finite. -/
theorem usable_of_endsAt [Scalar.StrictOrder α] {polls : Nat → Bool} {values : Array α}
    {done : Nat} {state : State α} {outcome : Outcome α}
    (endsAt : EndsAt problem polls values done state outcome)
    (untold : done < problem.settings.budget → polls done = false) :
    usable problem values = measured problem values done ++
      [state.values].filter fun other => Scalar.isFinite (normAt problem other) := by
  have all : measured problem values (problem.settings.budget + 1) =
      measured problem values (done + 1) := by
    rcases Nat.lt_or_eq_of_le endsAt.within with unspent | spent
    · exact measured_of_le (endsAt.last (untold unspent) unspent) (by omega)
    · rw [spent]
  have remembers := remembers_of_stateAt endsAt.reached
  rw [usable, all, measured_succ_of_some endsAt.reached, List.filter_append,
    List.filter_eq_self.mpr remembers.finite]

theorem usable_of_finite [Scalar.StrictOrder α] {polls : Nat → Bool} {values : Array α}
    {done : Nat} {state : State α} {outcome : Outcome α}
    (endsAt : EndsAt problem polls values done state outcome) (untold : polls done = false)
    (finite : Scalar.isFinite (normAt problem state.values) = true) :
    usable problem values = measured problem values done ++ [state.values] := by
  rw [usable_of_endsAt endsAt fun _ => untold]
  simp [finite]

/-- A correction was refused at values that are worse than earlier ones: with a residual above one
of the norms that were measured. -/
def Uphill (ending : Ending) (history : List α) (residual : Option α) : Prop :=
  (∃ iteration skipped, ending = .failed (.rankDeficient iteration skipped)) ∧
    ∃ norm ∈ history, ∃ last, residual = some last ∧ Scalar.lt norm last = true

theorem not_uphill {ending : Ending} {history : List α} {residual : Option α}
    (other : ∀ iteration skipped, ending ≠ .failed (.rankDeficient iteration skipped)) :
    ¬ Uphill ending history residual := by
  rintro ⟨⟨iteration, skipped, refused⟩, _⟩
  exact other iteration skipped refused

omit [Scalar α] in
@[simp] theorem ending_stopAtBest (state : State α) (ending : Ending) (done : Nat) :
    (state.stopAtBest ending done).ending = ending := by
  unfold State.stopAtBest
  split <;> rfl

omit [Scalar α] in
theorem deficiency_stopAtBest (state : State α) (ending : Ending) (done : Nat) :
    (state.stopAtBest ending done).deficiency = state.deficiency := by
  unfold State.stopAtBest
  split <;> rfl

theorem deficiency_finish (problem : Problem α) (done : Nat) (state : State α) :
    (finish problem done state).deficiency = state.deficiency := by
  rw [finish_eq, deficiency_stopAtBest, finishing]
  split <;> rfl

/-- **A run keeps the best of what it measured, except uphill.** Of the runs that are not told to
stop and measure a finite norm, those leave anything but the best values whose correction was
refused at values worse than earlier ones. -/
theorem run_keepsBest_iff [Scalar.StrictOrder α] (problem : Problem α) (polls : Nat → Bool)
    (values : Array α) (untold : (run problem polls values).ending ≠ .cancelled)
    (nonempty : usable problem values ≠ []) :
    KeepsBest problem values (run problem polls values) ↔
      ¬ Uphill (run problem polls values).ending (run problem polls values).history.toList
        (run problem polls values).residual := by
  obtain ⟨done, state, endsAt⟩ := run_endsAt problem polls values
  have remembers := remembers_of_stateAt endsAt.reached
  rw [KeepsBest]
  generalize run problem polls values = outcome at *
  cases endsAt.ends with
  | cancelled told => exact absurd rfl untold
  | notFinite go unbounded =>
      have seen : usable problem values = measured problem values done := by
        rw [usable_of_endsAt endsAt fun _ => go]
        simp [unbounded]
      rw [seen] at nonempty ⊢
      refine iff_of_true (keeps_stopAtBest remembers.best nonempty _ _) (not_uphill ?_)
      simp
  | converged go finite small =>
      -- All norms before were not below the tolerance, and the last one is.
      rw [usable_of_finite endsAt go finite]
      refine iff_of_true ⟨by simp [State.stop], rfl, ?_⟩ (not_uphill (by simp [State.stop]))
      intro other member
      rcases List.mem_append.mp member with before | here
      · exact Scalar.not_lt_of_not_lt_of_lt (remembers.large other before) small
      · rw [List.mem_singleton.mp here]
        exact Scalar.StrictOrder.lt_self _
  | noCorrection go finite large row cause unsolved =>
      rw [usable_of_finite endsAt go finite]
      have noted := (remembers_record remembers finite large).noteDifferences (done + 1) row
      refine iff_of_true (keeps_stopAtBest noted.best (by simp) _ _) (not_uphill ?_)
      simp
  | refused go finite large row correction solved excessive =>
      -- The one end that does not look at the best: it keeps its own values.
      rw [usable_of_finite endsAt go finite]
      have noted := remembers_record remembers finite large
      have norms := ((noted.noteDifferences (done + 1) row).noteCorrection (done + 1)
        (normAt problem state.values) correction).history
      constructor
      · rintro keeps ⟨_, norm, member, residual, same, less⟩
        cases same
        rw [State.stop, norms] at member
        obtain ⟨other, among, rfl⟩ := List.mem_map.mp member
        have least := keeps.least other among
        rw [State.stop, less] at least
        cases least
      · intro level
        refine ⟨by simp [State.stop], rfl, ?_⟩
        intro other among
        by_contra less
        refine level ⟨⟨_, _, rfl⟩, normAt problem other, ?_, _, rfl, Bool.of_not_eq_false less⟩
        rw [State.stop, norms]
        exact List.mem_map_of_mem among
  | spent all =>
      rw [usable_of_endsAt endsAt (by omega)] at nonempty ⊢
      rw [finish_eq]
      refine iff_of_true (keeps_stopAtBest (best_finishing remembers.best) nonempty _ _)
        (not_uphill ?_)
      intro iteration skipped
      rw [ending_stopAtBest]
      rcases verdict_cases problem (finishing problem state).best with same | same <;> simp [same]

end Newton

end PlanarSketch
