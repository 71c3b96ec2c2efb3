import PlanarSketch.Proofs.Newton.Continued

/-!
# The books of a run

Besides its values a run reports how many iterations it took, the finite norms it measured, the
largest number of pivots that a correction skipped, and a residual. These are noted at different
places of an iteration, and an iteration may end the run before, between and after them.

All the same the books are in order (`Newton.run_accounts`). There is one norm for each iteration,
with two exceptions: the iteration that measures a norm which is not finite leaves none, and when
the budget is spent the norm after the last step is added if it is finite and below all others. The
number of skipped pivots is the largest of the corrections that were computed, and the residual of
an exhausted run is the least norm.
-/

set_option autoImplicit false

namespace PlanarSketch

namespace Newton

variable {α : Type} [Scalar α] {problem : Problem α} {values : Array α} {polls : Nat → Bool}
  {done : Nat} {state : State α} {outcome : Outcome α}

/-! ## Corrections computed -/

/-- How many pivots an iteration at given values skips, if it computes a correction: the norm is
finite and not below the tolerance, and there is a correction. -/
def skippedAt (problem : Problem α) (values : Array α) : Option Nat :=
  let norm := normAt problem values
  if Scalar.isFinite norm && !Scalar.lt norm problem.settings.tolerance then
    (correctionAt problem values).toOption.map Correction.skipped
  else none

/-- How many pivots the corrections skipped that the first `count` iterations computed, in order. -/
def skips (problem : Problem α) (values : Array α) (count : Nat) : List Nat :=
  (measured problem values count).filterMap (skippedAt problem)

theorem skippedAt_of_unbounded (unbounded : Scalar.isFinite (normAt problem values) = false) :
    skippedAt problem values = none := by
  simp [skippedAt, unbounded]

theorem skippedAt_of_small
    (small : Scalar.lt (normAt problem values) problem.settings.tolerance = true) :
    skippedAt problem values = none := by
  simp [skippedAt, small]

theorem skippedAt_of_error {cause : LinearFailure}
    (unsolved : correctionAt problem values = .error cause) :
    skippedAt problem values = none := by
  simp [skippedAt, unsolved, Except.toOption]

theorem skippedAt_of_ok (finite : Scalar.isFinite (normAt problem values) = true)
    (large : Scalar.lt (normAt problem values) problem.settings.tolerance = false)
    {correction : Correction problem.layout.unknowns α}
    (solved : correctionAt problem values = .ok correction) :
    skippedAt problem values = some correction.skipped := by
  simp [skippedAt, finite, large, solved, Except.toOption]

/-- One more iteration skips what its correction does, if it computes one. -/
theorem foldl_skips_succ (reached : stateAt problem values done = some state) :
    (skips problem values (done + 1)).foldl max 0 =
      max ((skips problem values done).foldl max 0) ((skippedAt problem state.values).getD 0) := by
  rw [skips, measured_succ_of_some reached, List.filterMap_append, List.foldl_append, ← skips]
  cases skipped : skippedAt problem state.values <;> simp [skipped]

/-- **In every state the largest number of skipped pivots is noted.** -/
theorem deficiency_of_stateAt (reached : stateAt problem values done = some state) :
    state.deficiency = (skips problem values done).foldl max 0 := by
  induction done generalizing state with
  | zero =>
      cases reached
      rfl
  | succ done ih =>
      obtain ⟨before, here, moves⟩ := moves_of_stateAt_succ reached
      obtain ⟨finite, large, _, _, solved, _⟩ := moves
      rw [foldl_skips_succ here, ← ih here, skippedAt_of_ok finite large solved]
      rfl

/-- However a run ends, the largest number of skipped pivots is reported. -/
theorem Ends.deficiency (ends : Ends problem polls done state outcome)
    (reached : stateAt problem values done = some state) :
    outcome.deficiency = (skips problem values outcome.iterations).foldl max 0 := by
  have noted := deficiency_of_stateAt reached
  have next := foldl_skips_succ reached
  rw [← noted] at next
  cases ends with
  | cancelled => exact noted
  | notFinite _ unbounded =>
      rw [deficiency_stopAtBest, iterations_stopAtBest, next, skippedAt_of_unbounded unbounded]
      exact (Nat.max_zero _).symm
  | converged _ _ small =>
      rw [State.stop, next, skippedAt_of_small small]
      exact (Nat.max_zero _).symm
  | noCorrection _ _ _ _ _ unsolved =>
      rw [deficiency_stopAtBest, iterations_stopAtBest, next, skippedAt_of_error unsolved]
      exact (Nat.max_zero _).symm
  | refused _ finite large _ _ solved =>
      rw [State.stop, next, skippedAt_of_ok finite large solved]
      rfl
  | spent =>
      rw [deficiency_finish, iterations_finish]
      exact noted

/-! ## Norms noted -/

/-- A norm improves on the best so far when it is below all that were noted. -/
theorem improves_iff [Scalar.WeakOrder α] {seen : List (Array α)}
    (remembers : Remembers problem seen state) (norm : α) :
    improves norm state.best = true ↔
      ∀ entry ∈ state.history.toList, Scalar.lt norm entry = true := by
  have best := remembers.best
  rw [remembers.history]
  cases found : state.best with
  | none =>
      rw [found] at best
      rw [show seen = [] from best]
      exact iff_of_true rfl nofun
  | some old =>
      obtain ⟨least, values⟩ := old
      rw [found] at best
      obtain ⟨member, rfl, none⟩ := best
      constructor
      · intro less entry among
        obtain ⟨other, seen, rfl⟩ := List.mem_map.mp among
        exact Scalar.WeakOrder.lt_of_lt_of_not_lt (remembers.finite other seen) less
          (none other seen)
      · intro below
        exact below _ (List.mem_map_of_mem member)

/-- The norm after the last step is noted when it is finite and improves on the best. -/
theorem history_finish (problem : Problem α) (done : Nat) (state : State α) :
    (finish problem done state).history.toList = state.history.toList ++
      if Scalar.isFinite (normAt problem state.values) && improves
        (normAt problem state.values) state.best
      then [normAt problem state.values] else [] := by
  rw [finish_eq, history_stopAtBest, finishing]
  split
  · exact State.history_record state _
  · exact (List.append_nil _).symm

/-- However a run ends, only finite norms are noted. -/
theorem Ends.finite_history [Scalar.StrictOrder α] (ends : Ends problem polls done state outcome)
    (reached : stateAt problem values done = some state) :
    ∀ norm ∈ outcome.history.toList, Scalar.isFinite norm = true := by
  have before : ∀ norm ∈ state.history.toList, Scalar.isFinite norm = true := by
    have remembers := remembers_of_stateAt reached
    rw [remembers.history, List.forall_mem_map]
    exact remembers.finite
  have after (finite : Scalar.isFinite (normAt problem state.values) = true) :
      ∀ norm ∈ (state.record (normAt problem state.values)).history.toList,
        Scalar.isFinite norm = true := by
    rw [State.history_record]
    exact List.forall_mem_append.mpr ⟨before, List.forall_mem_singleton.mpr finite⟩
  cases ends with
  | cancelled => exact before
  | notFinite =>
      rw [history_stopAtBest]
      exact before
  | converged _ finite => exact after finite
  | noCorrection _ finite =>
      rw [history_stopAtBest]
      exact after finite
  | refused _ finite => exact after finite
  | spent =>
      rw [finish_eq, history_stopAtBest, finishing]
      split
      case isTrue better => exact after ((Bool.and_eq_true _ _).mp better).1
      case isFalse => exact before

/-- A run that ends within its budget noted one norm for each iteration, except for one that was not
finite. -/
theorem Ends.size_history (ends : Ends problem polls done state outcome)
    (reached : stateAt problem values done = some state)
    (unspent : done < problem.settings.budget) :
    (outcome.history.size = outcome.iterations ∧
      ∀ iteration, outcome.ending ≠ .failed (.residualNotFinite iteration)) ∨
    (outcome.history.size + 1 = outcome.iterations ∧
      outcome.ending = .failed (.residualNotFinite outcome.iterations)) := by
  have size := Newton.size_history reached
  have pushed : (state.record (normAt problem state.values)).history.size = done + 1 :=
    (Array.size_push _).trans (congrArg (· + 1) size)
  cases ends with
  | cancelled => exact .inl ⟨size, nofun⟩
  | notFinite =>
      right
      rw [history_stopAtBest, iterations_stopAtBest, ending_stopAtBest, size]
      exact ⟨rfl, rfl⟩
  | converged => exact .inl ⟨pushed, nofun⟩
  | noCorrection =>
      left
      rw [history_stopAtBest, iterations_stopAtBest, ending_stopAtBest]
      exact ⟨pushed, nofun⟩
  | refused => exact .inl ⟨pushed, nofun⟩
  | spent all => omega

theorem Ends.iterations_le (ends : Ends problem polls done state outcome) :
    outcome.iterations ≤ done + 1 := by
  cases ends with
  | cancelled => exact Nat.le_succ done
  | notFinite => exact (iterations_stopAtBest _ _ _).le
  | converged => exact le_rfl
  | noCorrection => exact (iterations_stopAtBest _ _ _).le
  | refused => exact le_rfl
  | spent => exact (iterations_finish problem done state).trans_le (Nat.le_succ done)

/-- The least entry of a history; none when the history has no entries. -/
def Least (history : List α) : Option α → Prop
  | none => history = []
  | some norm => norm ∈ history ∧ ∀ other ∈ history, Scalar.lt other norm = false

/-- The residual at the best values is the least norm noted. -/
theorem least_stopAtBest {seen : List (Array α)}
    (history : state.history.toList = seen.map (normAt problem))
    (best : Best problem seen state.best) (ending : Ending) (done : Nat) :
    Least state.history.toList (state.stopAtBest ending done).residual := by
  rw [history, State.stopAtBest]
  cases found : state.best with
  | none =>
      rw [found] at best
      rw [show seen = [] from best]
      rfl
  | some old =>
      obtain ⟨norm, values⟩ := old
      rw [found] at best
      obtain ⟨member, rfl, none⟩ := best
      exact ⟨List.mem_map_of_mem member, List.forall_mem_map.mpr none⟩

theorem least_finish [Scalar.StrictOrder α] {seen : List (Array α)}
    (remembers : Remembers problem seen state) (done : Nat) :
    Least (finish problem done state).history.toList (finish problem done state).residual := by
  rw [finish_eq, history_stopAtBest, finishing]
  split
  case isTrue =>
    refine least_stopAtBest ?_ (best_record remembers.best) _ done
    rw [State.history_record, remembers.history, List.map_append, List.map_singleton]
  case isFalse => exact least_stopAtBest remembers.history remembers.best _ done

/-! ## The books in order -/

/-- What a run reports of itself, compared with how it went. -/
structure Accounts (problem : Problem α) (polls : Nat → Bool) (values : Array α)
    (outcome : Outcome α) : Prop where
  ending : outcome.ending = .converged ∨ outcome.ending = .exhausted ∨
    (∃ cause, outcome.ending = .failed cause) ∨ outcome.ending = .cancelled
  within : outcome.iterations ≤ problem.settings.budget
  finite : ∀ norm ∈ outcome.history.toList, Scalar.isFinite norm = true
  deficiency : outcome.deficiency = (skips problem values outcome.iterations).foldl max 0
  size : outcome.history.size = outcome.iterations ∨ outcome.history.size + 1 = outcome.iterations ∨
    outcome.history.size = outcome.iterations + 1
  /-- One norm is missing exactly when the last one was not finite. -/
  short : outcome.history.size + 1 = outcome.iterations ↔
    ∃ iteration, outcome.ending = .failed (.residualNotFinite iteration)
  /-- There is one norm too many exactly when no iteration ended the run, and the norm after the
  last step is finite and below all before. -/
  long : outcome.history.size = outcome.iterations + 1 ↔
    (∀ earlier < problem.settings.budget, polls earlier = false) ∧
      ∃ last, valuesAt problem values problem.settings.budget = some last ∧
        Scalar.isFinite (normAt problem last) = true ∧
        ∀ norm ∈ outcome.history.toList.take problem.settings.budget,
          Scalar.lt (normAt problem last) norm = true
  exhausted : outcome.ending = .exhausted → outcome.iterations = problem.settings.budget ∧
    Least outcome.history.toList outcome.residual

theorem Ending.cases (ending : Ending) : ending = .converged ∨ ending = .exhausted ∨
    (∃ cause, ending = .failed cause) ∨ ending = .cancelled := by
  cases ending <;> simp

/-- A run that ends within its budget has no values after the last step of the budget. -/
theorem EndsAt.valuesAt_budget (endsAt : EndsAt problem polls values done state outcome)
    (unspent : done < problem.settings.budget)
    (untold : ∀ earlier < problem.settings.budget, polls earlier = false) :
    valuesAt problem values problem.settings.budget = none := by
  rw [valuesAt, stateAt_eq_none_of_le (endsAt.last (untold done unspent) unspent) unspent,
    Option.map_none]

/-- The books of a run that ends within its budget. -/
theorem EndsAt.accounts [Scalar.StrictOrder α]
    (endsAt : EndsAt problem polls values done state outcome)
    (unspent : done < problem.settings.budget) : Accounts problem polls values outcome := by
  have sizes := endsAt.ends.size_history endsAt.reached unspent
  refine {
    ending := Ending.cases _
    within := endsAt.ends.iterations_le.trans unspent
    finite := endsAt.ends.finite_history endsAt.reached
    deficiency := endsAt.ends.deficiency endsAt.reached
    size := sizes.elim (fun equal => .inl equal.1) fun less => .inr (.inl less.1)
    short := ?_
    long := ?_
    exhausted := fun exhausted => absurd exhausted (endsAt.ends.ne_exhausted unspent) }
  · rcases sizes with ⟨equal, other⟩ | ⟨less, failed⟩
    · refine iff_of_false (by omega) ?_
      rintro ⟨iteration, failed⟩
      exact other iteration failed
    · exact iff_of_true less ⟨_, failed⟩
  · refine iff_of_false (by omega) ?_
    rintro ⟨untold, last, reached, _⟩
    rw [endsAt.valuesAt_budget unspent untold] at reached
    cases reached

/-- When the budget is spent the norm after the last step is noted exactly when it is finite and
below all before. -/
theorem size_history_finish [Scalar.WeakOrder α]
    (reached : stateAt problem values done = some state) :
    (finish problem done state).history.size =
      if Scalar.isFinite (normAt problem state.values) = true ∧
      ∀ norm ∈ (finish problem done state).history.toList.take done,
        Scalar.lt (normAt problem state.values) norm = true then done + 1 else done := by
  have before : state.history.toList.length = done := size_history reached
  have earlier : (finish problem done state).history.toList.take done = state.history.toList := by
    rw [history_finish, List.take_left' before]
  rw [earlier, ← Array.length_toList, history_finish, List.length_append, before]
  simp only [← improves_iff (remembers_of_stateAt reached), Bool.and_eq_true]
  split <;> rfl

/-- The books of a run that spends its budget. -/
theorem accounts_finish [Scalar.WeakOrder α]
    (reached : stateAt problem values problem.settings.budget = some state)
    (untold : ∀ earlier < problem.settings.budget, polls earlier = false) :
    Accounts problem polls values (finish problem problem.settings.budget state) := by
  have spent : Ends problem polls problem.settings.budget state
      (finish problem problem.settings.budget state) := .spent rfl
  have count := iterations_finish problem problem.settings.budget state
  have size := size_history_finish reached
  have values : valuesAt problem values problem.settings.budget = some state.values := by
    rw [valuesAt, reached, Option.map_some]
  refine {
    ending := Ending.cases _
    within := count.le
    finite := spent.finite_history reached
    deficiency := spent.deficiency reached
    size := ?_
    short := ?_
    long := ?_
    exhausted := fun _ => ⟨count, least_finish (remembers_of_stateAt reached) _⟩ }
  · rw [count, size]
    split <;> simp
  · refine iff_of_false ?_ ?_
    · rw [count, size]
      split <;> omega
    · rintro ⟨iteration, failed⟩
      rw [finish_eq, ending_stopAtBest] at failed
      rcases verdict_cases problem (finishing problem state).best with same | same
      · cases failed.symm.trans same
      · cases failed.symm.trans same
  · rw [count, size, values]
    split
    case isTrue below => exact iff_of_true rfl ⟨untold, _, rfl, below⟩
    case isFalse level =>
      refine iff_of_false (by omega) ?_
      rintro ⟨_, last, ⟨⟩, below⟩
      exact level below

/-- **The books of every run are in order.** -/
theorem run_accounts [Scalar.WeakOrder α] (problem : Problem α) (polls : Nat → Bool)
    (values : Array α) :
    Accounts problem polls values (run problem polls values) := by
  obtain ⟨done, state, endsAt⟩ := run_endsAt problem polls values
  rcases Nat.lt_or_eq_of_le endsAt.within with unspent | rfl
  · exact endsAt.accounts unspent
  · rw [run_of_stateAt endsAt.reached endsAt.untold le_rfl, Nat.sub_self]
    exact accounts_finish endsAt.reached endsAt.untold

/-- A run with halved steps spends its budget, and the last step improves on the others. From a
point that is infinitely far away the first norm is not finite. -/
theorem run_atDistance_accounts :
    (let outcome := run (atDistance 0.5) (fun _ => false) #[0.0, 0.0, 1.0, 0.0]
     Accounts (atDistance 0.5) (fun _ => false) #[0.0, 0.0, 1.0, 0.0] outcome ∧
       outcome.ending = .exhausted ∧ outcome.iterations = 4 ∧ outcome.history.size = 5) ∧
    (let outcome := run (atDistance 0.5) (fun _ => false) #[0.0, 0.0, 1.0 / 0.0, 0.0]
     Accounts (atDistance 0.5) (fun _ => false) #[0.0, 0.0, 1.0 / 0.0, 0.0] outcome ∧
       outcome.ending = .failed (.residualNotFinite 1) ∧ outcome.iterations = 1 ∧
       outcome.history.size = 0) := by
  constructor
  · exact ⟨run_accounts _ _ _, by decide +kernel, by decide +kernel, by decide +kernel⟩
  · exact ⟨run_accounts _ _ _, by decide +kernel, by decide +kernel, by decide +kernel⟩

end Newton

end PlanarSketch
