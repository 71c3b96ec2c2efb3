import PlanarSketch.Proofs.Newton.Residual

/-!
# Runs that share their beginning

A budget and being told to stop decide how far a run goes, not where it goes: from a state of the
sequence every run goes on in the same way (`Newton.run_of_stateAt`). So of two runs of one problem
the shorter one is the beginning of the longer one, up to the place where it ends.

A run that is told to stop after some iterations is the run that never is, cut off there: it has the
values and the history that the other had then (`Newton.run_cut_off`). A run with a larger budget
repeats the one with the smaller budget, and when that one came to a result it comes to the same
(`Newton.run_withBudget`). Of the two only the check after the last step is done differently, once
outside the loop and once inside.
-/

set_option autoImplicit false

namespace PlanarSketch

/-- The same problem with another budget. -/
def Problem.withBudget {α : Type} (problem : Problem α) (budget : Nat) : Problem α :=
  { problem with settings := { problem.settings with budget } }

namespace Newton

variable {α : Type} [Scalar α] {problem : Problem α} {values : Array α} {polls : Nat → Bool}
  {done : Nat} {state : State α} {outcome : Outcome α}

/-! ## Going on from a state -/

theorem exists_stateAt {earlier : Nat} (reached : stateAt problem values done = some state)
    (le : earlier ≤ done) : ∃ before, stateAt problem values earlier = some before := by
  by_contra none
  have ended := Option.eq_none_iff_forall_ne_some.mpr (not_exists.mp none)
  rw [stateAt_eq_none_of_le ended le] at reached
  cases reached

theorem iterate_of_stateAt_succ {next : State α} (here : stateAt problem values done = some state)
    (after : stateAt problem values (done + 1) = some next) :
    iterate problem false done state = .next next := by
  rw [stateAt, here, Option.bind_some] at after
  cases step : iterate problem false done state with
  | stop outcome =>
      rw [step] at after
      cases after
  | next other =>
      rw [step] at after
      cases after
      rfl

/-- **A run goes on from any state that it reaches untold.** -/
theorem run_of_stateAt (reached : stateAt problem values done = some state)
    (untold : ∀ earlier < done, polls earlier = false) (within : done ≤ problem.settings.budget) :
    run problem polls values =
      proceed problem polls (problem.settings.budget - done) done state := by
  induction done generalizing state with
  | zero =>
      cases reached
      rfl
  | succ done ih =>
      obtain ⟨before, here, _⟩ := moves_of_stateAt_succ reached
      have left : problem.settings.budget - done = problem.settings.budget - (done + 1) + 1 := by
        omega
      have still : ∀ earlier < done, polls earlier = false :=
        fun earlier less => untold earlier (by omega)
      rw [ih here still (by omega), left, proceed, untold done (Nat.lt_succ_self done),
        iterate_of_stateAt_succ here reached]

/-- A run ends where an iteration within the budget ends it. -/
theorem run_of_stop (reached : stateAt problem values done = some state)
    (untold : ∀ earlier < done, polls earlier = false) (unspent : done < problem.settings.budget)
    (stops : iterate problem (polls done) done state = .stop outcome) :
    run problem polls values = outcome := by
  have left : problem.settings.budget - done = problem.settings.budget - (done + 1) + 1 := by omega
  rw [run_of_stateAt reached untold unspent.le, left, proceed, stops]

/-- A run that is never told to stop ends in an iteration, or spends its budget. -/
theorem run_stops_or_spent (problem : Problem α) (values : Array α) :
    (∃ done state, done < problem.settings.budget ∧ stateAt problem values done = some state ∧
      iterate problem false done state = .stop (run problem (fun _ => false) values)) ∨
    ∃ state, stateAt problem values problem.settings.budget = some state ∧
      run problem (fun _ => false) values = finish problem problem.settings.budget state := by
  obtain ⟨done, state, endsAt⟩ := run_endsAt problem (fun _ => false) values
  have same := run_of_stateAt endsAt.reached (fun _ _ => rfl) endsAt.within
  rcases Nat.lt_or_eq_of_le endsAt.within with unspent | spent
  · left
    refine ⟨done, state, unspent, endsAt.reached, ?_⟩
    have ended := endsAt.last rfl unspent
    rw [stateAt, endsAt.reached, Option.bind_some] at ended
    have left : problem.settings.budget - done = problem.settings.budget - (done + 1) + 1 := by
      omega
    rw [same, left, proceed]
    cases step : iterate problem false done state with
    | stop outcome => rfl
    | next next =>
        rw [step] at ended
        cases ended
  · right
    subst spent
    refine ⟨state, endsAt.reached, ?_⟩
    rw [same, Nat.sub_self, proceed]

/-! ## What an end tells of the run -/

omit [Scalar α] in
@[simp] theorem iterations_stopAtBest (state : State α) (ending : Ending) (done : Nat) :
    (state.stopAtBest ending done).iterations = done := by
  unfold State.stopAtBest
  split <;> rfl

omit [Scalar α] in
@[simp] theorem history_stopAtBest (state : State α) (ending : Ending) (done : Nat) :
    (state.stopAtBest ending done).history = state.history := by
  unfold State.stopAtBest
  split <;> rfl

/-- A run that ends within its budget, untold, ends in the iteration after the completed ones. -/
theorem Ends.iterations (ends : Ends problem polls done state outcome) (untold : polls done = false)
    (unspent : done < problem.settings.budget) : outcome.iterations = done + 1 := by
  cases ends with
  | cancelled told =>
      rw [untold] at told
      cases told
  | notFinite => exact iterations_stopAtBest _ _ _
  | converged => rfl
  | noCorrection => exact iterations_stopAtBest _ _ _
  | refused => rfl
  | spent all => omega

/-- An untold iteration that ends the run does so in one of the ways. -/
theorem ends_of_stop (stops : iterate problem false done state = .stop outcome) :
    Ends problem (fun _ => false) done state outcome := by
  rcases iterate_cases problem (fun _ => false) done state with ⟨_, same, ends⟩ | ⟨next, goes, _⟩
  · cases stops.symm.trans same
    exact ends
  · cases stops.symm.trans goes

/-- An iteration that ends a run within its budget, untold, is counted. -/
theorem iterations_of_stop (unspent : done < problem.settings.budget)
    (stops : iterate problem false done state = .stop outcome) : outcome.iterations = done + 1 :=
  (ends_of_stop stops).iterations rfl unspent

/-- A run is exhausted only when its budget is spent. -/
theorem Ends.ne_exhausted (ends : Ends problem polls done state outcome)
    (unspent : done < problem.settings.budget) : outcome.ending ≠ .exhausted := by
  cases ends with
  | notFinite =>
      rw [ending_stopAtBest]
      nofun
  | noCorrection =>
      rw [ending_stopAtBest]
      nofun
  | spent all => omega
  | _ => nofun

theorem iterations_finish (problem : Problem α) (done : Nat) (state : State α) :
    (finish problem done state).iterations = done := by
  rw [finish_eq, iterations_stopAtBest]

/-- Every completed iteration has left its norm in the history. -/
theorem size_history (reached : stateAt problem values done = some state) :
    state.history.size = done := by
  induction done generalizing state with
  | zero =>
      cases reached
      rfl
  | succ done ih =>
      obtain ⟨before, here, moves⟩ := moves_of_stateAt_succ reached
      obtain ⟨_, _, _, _, _, _⟩ := moves
      exact (Array.size_push _).trans (congrArg (· + 1) (ih here))

/-! ## Histories only grow -/

theorem State.history_record (state : State α) (norm : α) :
    (state.record norm).history.toList = state.history.toList ++ [norm] := by
  simp [State.record]

theorem prefix_record (state : State α) (norm : α) :
    state.history.toList <+: (state.record norm).history.toList :=
  ⟨[norm], (state.history_record norm).symm⟩

theorem prefix_finishing (state : State α) :
    state.history.toList <+: (finishing problem state).history.toList := by
  unfold finishing
  split
  · exact prefix_record state _
  · exact List.prefix_rfl

theorem Ends.prefix_history (ends : Ends problem polls done state outcome) :
    state.history.toList <+: outcome.history.toList := by
  have measured := prefix_record state (normAt problem state.values)
  cases ends with
  | cancelled => exact List.prefix_rfl
  | notFinite => simp only [history_stopAtBest, List.prefix_rfl]
  | converged => exact measured
  | noCorrection =>
      rw [history_stopAtBest]
      exact measured
  | refused => exact measured
  | spent =>
      rw [finish_eq, history_stopAtBest]
      exact prefix_finishing state

theorem Moves.prefix_record {next : State α} (moves : Moves problem done state next) :
    (state.record (normAt problem state.values)).history.toList <+: next.history.toList := by
  obtain ⟨_, _, _, _, _, _⟩ := moves
  exact List.prefix_rfl

/-- **What is left of a run only adds to the history.** -/
theorem prefix_proceed (problem : Problem α) (polls : Nat → Bool) (left done : Nat)
    (state : State α) :
    state.history.toList <+: (proceed problem polls left done state).history.toList := by
  induction left generalizing done state with
  | zero =>
      rw [proceed, finish_eq, history_stopAtBest]
      exact prefix_finishing state
  | succ left ih =>
      rcases iterate_cases problem polls done state with ⟨outcome, stops, ends⟩ |
        ⟨next, goes, _, moves⟩
      · rw [proceed, stops]
        exact ends.prefix_history
      · rw [proceed, goes]
        exact ((prefix_record state _).trans moves.prefix_record).trans (ih (done + 1) next)

/-- An iteration that measures a finite norm adds it first. -/
theorem prefix_record_proceed (finite : Scalar.isFinite (normAt problem state.values) = true)
    (untold : polls done = false) (unspent : done < problem.settings.budget) (left : Nat) :
    (state.record (normAt problem state.values)).history.toList <+:
      (proceed problem polls (left + 1) done state).history.toList := by
  rcases iterate_cases problem polls done state with ⟨outcome, stops, ends⟩ | ⟨next, goes, _, moves⟩
  · rw [proceed, stops]
    cases ends with
    | cancelled told =>
        rw [untold] at told
        cases told
    | notFinite _ unbounded =>
        rw [finite] at unbounded
        cases unbounded
    | converged => exact List.prefix_rfl
    | noCorrection => simp only [history_stopAtBest, State.noteDifferences, List.prefix_rfl]
    | refused => exact List.prefix_rfl
    | spent all => omega
  · rw [proceed, goes]
    exact moves.prefix_record.trans (prefix_proceed problem polls left (done + 1) next)

/-! ## Runs cut off -/

/-- A run that is told to stop only after the end of the run that never is, is that run. -/
theorem run_of_untold
    (untold : ∀ earlier < (run problem (fun _ => false) values).iterations, polls earlier = false) :
    run problem polls values = run problem (fun _ => false) values := by
  rcases run_stops_or_spent problem values with ⟨done, state, unspent, reached, stops⟩ |
    ⟨state, reached, same⟩
  · have count := iterations_of_stop unspent stops
    refine run_of_stop reached (fun earlier less => untold earlier (by omega)) unspent ?_
    rw [untold done (by omega), stops]
  · have count : (run problem (fun _ => false) values).iterations = problem.settings.budget := by
      rw [same, iterations_finish]
    rw [count] at untold
    rw [run_of_stateAt reached untold le_rfl, Nat.sub_self, proceed, same]

/-- Before a run that is never told to stop ends, each count of iterations leads to a state. -/
theorem exists_stateAt_of_lt {count : Nat}
    (less : count < (run problem (fun _ => false) values).iterations) :
    count < problem.settings.budget ∧ ∃ state, stateAt problem values count = some state := by
  rcases run_stops_or_spent problem values with ⟨done, state, unspent, reached, stops⟩ |
    ⟨state, reached, same⟩
  · rw [iterations_of_stop unspent stops] at less
    exact ⟨by omega, exists_stateAt reached (by omega)⟩
  · rw [same, iterations_finish] at less
    exact ⟨less, exists_stateAt reached less.le⟩

/-- **A run that is told to stop after some iterations is the other run, cut off.** When the run
that is never told to stop has ended by then, both are the same. Otherwise the run is cancelled with
the values that the other has after as many corrections, with their norm, and with as much of the
history. -/
theorem run_cut_off (problem : Problem α) (values : Array α) (count : Nat) :
    let whole := run problem (fun _ => false) values
    let part := run problem (fun done => decide (count ≤ done)) values
    (whole.iterations ≤ count → part = whole) ∧
    (count < whole.iterations →
      part.ending = .cancelled ∧ part.iterations = count ∧
        part.history.toList = whole.history.toList.take count ∧ part.history.size = count ∧
        valuesAt problem values count = some part.values ∧
        part.residual = some (normAt problem part.values)) := by
  intro whole part
  have still (later : Nat) (le : later ≤ count) :
      ∀ earlier < later, decide (count ≤ earlier) = false := by
    intro earlier less
    exact decide_eq_false (by omega)
  refine ⟨fun ended => run_of_untold (still _ ended), fun less => ?_⟩
  obtain ⟨unspent, state, reached⟩ := exists_stateAt_of_lt less
  have cut :
      part = state.stop .cancelled count (some (normAt problem state.values)) state.values := by
    refine run_of_stop reached (still count le_rfl) unspent ?_
    rw [decide_eq_true le_rfl]
    rfl
  have size := size_history reached
  have begins : state.history.toList <+: whole.history.toList := by
    rw [show whole = _ from run_of_stateAt reached (fun _ _ => rfl) unspent.le]
    exact prefix_proceed problem _ _ count state
  rw [cut]
  refine ⟨rfl, rfl, ?_, size, ?_, rfl⟩
  · rw [← size]
    exact List.prefix_iff_eq_take.mp begins
  · rw [valuesAt, reached]
    rfl

/-- A fixed point at the start of the values and a free one behind it, wanted at a distance of
`0.75`. -/
def atDistance (damping : Float) : Problem Float where
  layout := {
    blocks := [⟨Text.ofString "A", .point, 0, true⟩, ⟨Text.ofString "B", .point, 2, false⟩]
    freeSlots := #[2, 3]
    bound := #[{
      name := Text.ofString "d", relation := .distance ⟨.point, 0⟩ ⟨.point, 2⟩
      target := 0.75, tolerance := 1e-9, columns := [0, 1] }] }
  settings := {
    budget := 4, tolerance := 1e-9, damping, mode := .analytic, epsilon := 1e-7
    pivotTolerance := 1e-12, deficiencyLimit := none }
  formulas := Formulas.standard

/-- Told to stop after three iterations, a run with halved steps has three norms and three steps
behind it. -/
theorem run_atDistance_cut_off :
    let whole := run (atDistance 0.5) (fun _ => false) #[0.0, 0.0, 1.0, 0.0]
    let part := run (atDistance 0.5) (fun done => decide (3 ≤ done)) #[0.0, 0.0, 1.0, 0.0]
    part.ending = .cancelled ∧ part.iterations = 3 ∧
    part.history.toList = whole.history.toList.take 3 ∧
      part.history.size = 3 ∧ valuesAt (atDistance 0.5) #[0.0, 0.0, 1.0, 0.0] 3 = some part.values ∧
      part.residual = some (normAt (atDistance 0.5) part.values) :=
  (run_cut_off (atDistance 0.5) #[0.0, 0.0, 1.0, 0.0] 3).2 (by decide +kernel)

/-! ## The check after the last step -/

/-- When a run with its budget spent is found to have converged, it is the last values that are
small: the norms before were not. -/
theorem finish_of_converged {seen : List (Array α)} (remembers : Remembers problem seen state)
    (converged : (finish problem done state).ending = .converged) :
    Scalar.isFinite (normAt problem state.values) = true ∧
      Scalar.lt (normAt problem state.values) problem.settings.tolerance = true ∧
      finish problem done state = (state.record (normAt problem state.values)).stop .converged done
        (some (normAt problem state.values)) state.values := by
  rw [finish_eq, ending_stopAtBest] at converged
  rw [finish_eq, converged]
  by_cases better : (Scalar.isFinite (normAt problem state.values) &&
      improves (normAt problem state.values) state.best) = true
  · obtain ⟨finite, improved⟩ := (Bool.and_eq_true _ _).mp better
    have last :
        (finishing problem state).best = some (normAt problem state.values, state.values) := by
      rw [finishing, if_pos better]
      exact if_pos improved
    refine ⟨finite, ?_, ?_⟩
    · rw [last, verdict] at converged
      by_contra large
      rw [if_neg large] at converged
      cases converged
    · simp only [State.stopAtBest, last]
      rw [finishing, if_pos better]
  · rw [finishing, if_neg better] at converged
    cases found : state.best with
    | none =>
        rw [found] at converged
        cases converged
    | some old =>
        have best := remembers.best
        rw [found] at converged best
        obtain ⟨norm, earlier⟩ := old
        obtain ⟨member, rfl, _⟩ := best
        rw [verdict, if_neg (Bool.eq_false_iff.mp (remembers.large earlier member))] at converged
        cases converged

/-- With the budget spent a run has converged if it came to a result. -/
theorem finish_result (result : (finish problem done state).ending = .converged ∨
      ∃ cause, (finish problem done state).ending = .failed cause) :
    (finish problem done state).ending = .converged := by
  rcases result with converged | ⟨cause, failed⟩
  · exact converged
  · rw [finish_eq, ending_stopAtBest] at failed
    rcases verdict_cases problem (finishing problem state).best with same | same
    · cases failed.symm.trans same
    · cases failed.symm.trans same

/-! ## Budgets -/

theorem correct_withBudget (problem : Problem α) (budget iteration : Nat) (norm : α)
    (residuals : Vector α problem.layout.equations) (state : State α) :
    correct (problem.withBudget budget) iteration norm residuals state =
      correct problem iteration norm residuals state := by
  refine (correct_eq (problem.withBudget budget) iteration norm residuals state).trans ?_
  rw [correct_eq problem]
  -- The split is on one correction for both sides, whose type mentions the problem.
  cases solved : Correction.solve problem.settings.pivotTolerance
      (Jacobian.build problem.layout problem.settings.mode problem.settings.epsilon problem.formulas
        state.values (some residuals)).matrix residuals with
  | error cause =>
      dsimp only [Problem.withBudget]
      rw [solved]
  | ok correction =>
      dsimp only [Problem.withBudget]
      rw [solved]
      rfl

/-- No iteration looks at the budget. -/
theorem iterate_withBudget (problem : Problem α) (budget : Nat) (cancelled : Bool) (done : Nat)
    (state : State α) :
    iterate (problem.withBudget budget) cancelled done state =
      iterate problem cancelled done state := by
  unfold iterate
  dsimp only
  rw [← correct_withBudget problem budget]
  rfl

theorem stateAt_withBudget (problem : Problem α) (budget : Nat) (values : Array α) (done : Nat) :
    stateAt (problem.withBudget budget) values done = stateAt problem values done := by
  induction done with
  | zero => rfl
  | succ done ih =>
      rw [stateAt, stateAt, ih]
      simp only [iterate_withBudget]

theorem measured_withBudget (problem : Problem α) (budget : Nat) (values : Array α) (count : Nat) :
    measured (problem.withBudget budget) values count = measured problem values count := by
  have same : valuesAt (problem.withBudget budget) values = valuesAt problem values := by
    funext done
    rw [valuesAt, valuesAt, stateAt_withBudget]
  rw [measured, measured, same]

/-- With a larger budget a run measures all that it measures with a smaller one. -/
theorem usable_withBudget {few many : Nat} (le : few ≤ many) :
    usable (problem.withBudget few) values ⊆ usable (problem.withBudget many) values := by
  intro other member
  obtain ⟨seen, finite⟩ := List.mem_filter.mp member
  rw [measured_withBudget] at seen
  refine List.mem_filter.mpr ⟨?_, finite⟩
  rw [measured_withBudget]
  exact measured_mono (Nat.succ_le_succ le) seen

/-- A residual that a run reports is finite and not above another one; an absent one is infinite. -/
def NotAbove (residual bound : Option α) : Prop :=
  ∀ limit, bound = some limit →
    Scalar.isFinite limit = true ∧
      ∃ norm, residual = some norm ∧ Scalar.isFinite norm = true ∧ Scalar.lt limit norm = false

/-- No iteration within the budget ends the run: it is the check after the last step that does. -/
def spendsBudget (problem : Problem α) (values : Array α) : Bool :=
  (stateAt problem values problem.settings.budget).isSome

/-- What is left at the end of a run is not worse with a larger budget. -/
theorem notAbove_withBudget [Scalar.StrictOrder α] {few many : Nat} (le : few ≤ many)
    (early : (run (problem.withBudget few) (fun _ => false) values).ending = .exhausted)
    (late : (run (problem.withBudget many) (fun _ => false) values).ending = .exhausted ∨
      (run (problem.withBudget many) (fun _ => false) values).ending = .converged) :
    NotAbove (run (problem.withBudget many) (fun _ => false) values).residual
      (run (problem.withBudget few) (fun _ => false) values).residual := by
  intro limit reported
  have first : normAt (problem.withBudget few) values = normAt problem values := rfl
  cases finite : Scalar.isFinite (normAt problem values) with
  | false =>
      rw [run_residual, early, first, finite] at reported
      simp at reported
  | true =>
      have shorter : KeepsBest (problem.withBudget few) values _ := run_keeps (.inl early) finite
      have longer : KeepsBest (problem.withBudget many) values _ := run_keeps late finite
      rw [shorter.residual] at reported
      cases reported
      have among := usable_withBudget le shorter.among
      exact ⟨(List.mem_filter.mp among).2, _, longer.residual, (List.mem_filter.mp longer.among).2,
        longer.least _ among⟩

/-- A run ends with any budget beyond it where an iteration ends it. -/
theorem run_withBudget_of_stop {budget : Nat} (reached : stateAt problem values done = some state)
    (unspent : done < budget) (stops : iterate problem false done state = .stop outcome) :
    run (problem.withBudget budget) (fun _ => false) values = outcome := by
  rw [← stateAt_withBudget problem budget] at reached
  rw [← iterate_withBudget problem budget] at stops
  exact run_of_stop reached (fun _ _ => rfl) unspent stops

/-- The history of a run whose budget is spent begins the one with a larger budget. -/
theorem prefix_withBudget {few many : Nat} (le : few ≤ many)
    (reached : stateAt problem values few = some state) :
    (finish (problem.withBudget few) few state).history.toList <+:
      (run (problem.withBudget many) (fun _ => false) values).history.toList := by
  rw [← stateAt_withBudget problem many] at reached
  have goes : run (problem.withBudget many) (fun _ => false) values =
      proceed (problem.withBudget many) (fun _ => false) (many - few) few state :=
    run_of_stateAt reached (fun _ _ => rfl) le
  rw [goes]
  rcases Nat.lt_or_eq_of_le le with less | rfl
  · obtain ⟨left, same⟩ := Nat.exists_eq_succ_of_ne_zero (Nat.sub_ne_zero_of_lt less)
    rw [same, finish_eq, history_stopAtBest, finishing]
    split
    case isTrue better =>
      have finite := ((Bool.and_eq_true _ _).mp better).1
      exact @prefix_record_proceed _ _ (problem.withBudget many) _ _ _ finite rfl less left
    case isFalse => exact prefix_proceed _ _ _ few state
  · simp only [Nat.sub_self, proceed, List.prefix_rfl]

/-- What the check after the last step finds to have converged, one more iteration finds so. -/
theorem run_withBudget_of_converged [Scalar.StrictOrder α] {few many : Nat} (less : few < many)
    (reached : stateAt problem values few = some state)
    (converged : (finish (problem.withBudget few) few state).ending = .converged) :
    run (problem.withBudget many) (fun _ => false) values =
      { finish (problem.withBudget few) few state with iterations := few + 1 } := by
  have again := reached
  rw [← stateAt_withBudget problem few] at again
  obtain ⟨finite, small, ends⟩ := finish_of_converged (remembers_of_stateAt again) converged
  rw [ends]
  exact run_withBudget_of_stop reached less (iterate_of_small finite small)

/-- **The law of budgets.** A run that converged or failed does the same with a larger budget; only
when it converged in the check after its last step, the larger budget finds it out in one more
iteration. The history of an exhausted run is the beginning of the one with a larger budget, and
what that run leaves is not worse, if it does not fail. -/
theorem run_withBudget [Scalar.StrictOrder α] (problem : Problem α) (values : Array α)
    {few many : Nat} (le : few ≤ many) :
    let early := run (problem.withBudget few) (fun _ => false) values
    let late := run (problem.withBudget many) (fun _ => false) values
    ((early.ending = .converged ∨ ∃ cause, early.ending = .failed cause) →
      late = { early with iterations :=
        if few < many ∧ spendsBudget (problem.withBudget few) values then few + 1
        else early.iterations }) ∧
    (early.ending = .exhausted →
      early.history.toList <+: late.history.toList ∧
      (late.ending = .exhausted ∨ late.ending = .converged →
        NotAbove late.residual early.residual)) := by
  intro early late
  rcases run_stops_or_spent (problem.withBudget few) values with
    ⟨done, state, unspent, reached, stops⟩ | ⟨state, reached, same⟩
  · -- The shorter run ends in an iteration, so the longer one ends in the same.
    rw [stateAt_withBudget] at reached
    have here : iterate problem false done state = .stop early := by
      rw [← iterate_withBudget problem few]
      exact stops
    have less : done < many := lt_of_lt_of_le unspent le
    have unfinished : spendsBudget (problem.withBudget few) values = false := by
      have ended : stateAt problem values (done + 1) = none := by
        rw [stateAt, reached, Option.bind_some, here, Step.next?]
      rw [spendsBudget, stateAt_withBudget]
      exact Option.isSome_eq_false_iff.mpr
        (Option.isNone_iff_eq_none.mpr (stateAt_eq_none_of_le ended unspent))
    have equal : late = early := run_withBudget_of_stop reached less here
    refine ⟨fun _ => ?_, fun exhausted =>
      absurd exhausted ((ends_of_stop stops).ne_exhausted unspent)⟩
    rw [equal, unfinished, if_neg (by simp)]
  · have here : stateAt problem values few = some state := by
      rw [← stateAt_withBudget problem few]
      exact reached
    have spends : spendsBudget (problem.withBudget few) values = true := by
      rw [spendsBudget, reached]
      rfl
    rw [show early = finish (problem.withBudget few) few state from same]
    refine ⟨fun result => ?_, fun exhausted => ⟨prefix_withBudget le here, ?_⟩⟩
    · have converged := finish_result result
      rcases Nat.lt_or_eq_of_le le with less | rfl
      · rw [if_pos ⟨less, spends⟩]
        exact run_withBudget_of_converged less here converged
      · rw [if_neg fun more => Nat.lt_irrefl _ more.1]
        exact same
    · rw [show finish (problem.withBudget few) few state = early from same.symm] at exhausted ⊢
      exact notAbove_withBudget le exhausted

/-- One full step is enough, but only a second iteration finds it out within the loop. One halved
step is not enough. -/
theorem run_atDistance_withBudget :
    (let early := run ((atDistance 1.0).withBudget 1) (fun _ => false) #[0.0, 0.0, 1.0, 0.0]
     run ((atDistance 1.0).withBudget 3) (fun _ => false) #[0.0, 0.0, 1.0, 0.0] =
       { early with iterations := 2 }) ∧
    (let early := run ((atDistance 0.5).withBudget 1) (fun _ => false) #[0.0, 0.0, 1.0, 0.0]
     let late := run ((atDistance 0.5).withBudget 3) (fun _ => false) #[0.0, 0.0, 1.0, 0.0]
     early.history.toList <+: late.history.toList ∧ NotAbove late.residual early.residual) := by
  constructor
  · obtain ⟨result, _⟩ :=
      run_withBudget (atDistance 1.0) #[0.0, 0.0, 1.0, 0.0] (show 1 ≤ 3 by decide)
    have spends : spendsBudget ((atDistance 1.0).withBudget 1) #[0.0, 0.0, 1.0, 0.0] = true := by
      decide +kernel
    rw [spends] at result
    exact result (.inl (by decide +kernel))
  · obtain ⟨_, exhausted⟩ :=
      run_withBudget (atDistance 0.5) #[0.0, 0.0, 1.0, 0.0] (show 1 ≤ 3 by decide)
    obtain ⟨begins, notAbove⟩ := exhausted (by decide +kernel)
    exact ⟨begins, notAbove (.inl (by decide +kernel))⟩

end Newton

end PlanarSketch
