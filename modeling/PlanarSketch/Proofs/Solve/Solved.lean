import PlanarSketch.Proofs.Store.Sound
import PlanarSketch.Solve

/-!
# What a solve makes of a store

A solve runs the iteration and writes the values it leaves back. Either a parameter to write is not
finite; then the entities before it are written, and there is no report. Or all are written, and the
report is about the store that came of it (`Store.Solves`).

In both cases the store stays within its frame (`Store.Solves.framed`) and its parameters stay
finite (`Store.Solves.isFinite`). There is a report exactly when all values the run leaves are
finite (`Store.Solves.report_iff`), and then these values are what the residuals of the store are
measured at (`Store.Solves.residuals_after`).
-/

set_option autoImplicit false

namespace PlanarSketch

variable {α : Type} [Scalar α]

namespace Store

/-- The entities of a store after writing given values back, and whether all were written. -/
def rewritten (store : Store α) (values : Array α) : Except (Error α) Unit × List (Entity α) :=
  Entity.rewritten values (Entity.placed 0 store.entities)

/-- A store with its entities rewritten. -/
def moved (store : Store α) (values : Array α) : Store α :=
  { store with entities := (store.rewritten values).2 }

/-- The two ways a solve ends, given the flat view of the store and the outcome of the run. -/
inductive Solves (store : Store α) (layout : Layout α) (outcome : Outcome α) : Solved α → Prop where
  | refused (error : Error α) (failed : (store.rewritten outcome.values).1 = .error error) :
      Solves store layout outcome {
        freedom := store.freedom
        outcome
        store := store.moved outcome.values
        report := .error error }
  | reported (written : (store.rewritten outcome.values).1 = .ok ())
      (reports : List (ConstraintReport α))
      (each : reports = (store.moved outcome.values).constraintReports layout outcome.values)
      (notices : List (Notice α)) :
      Solves store layout outcome {
        freedom := store.freedom
        outcome
        store := (store.moved outcome.values).noteSatisfied reports
        report := .ok {
          freedom := store.freedom
          ending := outcome.ending
          iterations := outcome.iterations
          residual := outcome.residual
          history := outcome.history.toList
          deficiency := outcome.deficiency
          entities := (store.moved outcome.values).entities
          constraints := reports
          notices } }

/-- A store with distinct names and a flat view is solved in one of the two ways. -/
theorem solves_of_laid {store : Store α} {layout : Layout α}
    (laid : Layout.ofStore store = .ok layout) (distinct : Ledger.Distinct store.entities)
    (settings : Settings α) (formulas : Formulas α) (polls : Nat → Bool) :
    ∃ solved, store.solve settings formulas polls = .ok solved ∧
      Solves store layout
        (Newton.run { layout, settings, formulas } polls store.parameters.toArray) solved := by
  obtain ⟨blocks, _, _⟩ := Layout.ofStore_inv laid
  generalize outcomeEq : Newton.run { layout, settings, formulas } polls
    store.parameters.toArray = outcome
  have back := Layout.writeBack_eq blocks distinct outcome.values
  rw [Store.solve, laid]
  simp only [bind, Except.bind, outcomeEq, back]
  cases written : (Entity.rewritten outcome.values (Entity.placed 0 store.entities)).1 with
  | error error => exact ⟨_, rfl, .refused error written⟩
  | ok done => exact ⟨_, rfl, .reported written _ rfl _⟩

theorem Solves.outcome_eq {store : Store α} {layout : Layout α} {outcome : Outcome α}
    {solved : Solved α} (solves : Solves store layout outcome solved) :
    solved.outcome = outcome := by
  cases solves with
  | refused => rfl
  | reported => rfl

/-! ## The frame -/

omit [Scalar α] in
/-- Noting one report for each constraint changes nothing else about constraints. -/
theorem framed_notes {constraints : List (Constraint α)} {reports : List (ConstraintReport α)}
    (paired : reports.length = constraints.length) :
    List.Forall₂ Constraint.Framed constraints
      (List.zipWith (fun (constraint : Constraint α) (report : ConstraintReport α) =>
        { constraint with satisfied := Json.bool report.satisfied }) constraints reports) := by
  induction constraints generalizing reports with
  | nil => exact .nil
  | cons constraint rest ih =>
      cases reports with
      | nil => cases paired
      | cons report others => exact .cons rfl (ih (Nat.succ.inj paired))

theorem framed_moved (store : Store α) (values : Array α) : store.Framed (store.moved values) := by
  have framed := Entity.framed_rewritten values (Entity.placed 0 store.entities)
  rw [Entity.map_snd_placed] at framed
  exact .ofEntities framed

variable {store : Store α} {layout : Layout α} {outcome : Outcome α} {solved : Solved α}

theorem length_constraintReports (laid : Layout.ofStore store = .ok layout) (values : Array α) :
    ((store.moved values).constraintReports layout values).length = store.constraints.length := by
  obtain ⟨_, _, bindings⟩ := Layout.ofStore_inv laid
  rw [constraintReports, List.length_zipWith, length_of_mapM bindings, moved, Nat.min_self]

/-- **A solve stays within the frame of the store.** -/
theorem Solves.framed (solves : Solves store layout outcome solved)
    (laid : Layout.ofStore store = .ok layout) : store.Framed solved.store := by
  have moved := framed_moved store outcome.values
  cases solves with
  | refused error failed => exact moved
  | reported written reports each notices =>
      refine ⟨moved.entities, framed_notes ?_⟩
      rw [each]
      exact length_constraintReports laid outcome.values

omit [Scalar α] in
theorem forall_placed {holds : Entity α → Prop} {entities : List (Entity α)} (offset : Nat)
    (each : ∀ entity ∈ entities, holds entity) :
    ∀ place ∈ Entity.placed offset entities, holds place.2 := by
  intro place member
  refine each place.2 ?_
  rw [← Entity.map_snd_placed offset entities]
  exact List.mem_map_of_mem member

/-- **A solve brings in no number that is not finite.** -/
theorem Solves.isFinite (solves : Solves store layout outcome solved)
    (finite : ∀ entity ∈ store.entities, entity.isFinite = true) :
    ∀ entity ∈ solved.store.entities, entity.isFinite = true := by
  have kept := Entity.isFinite_rewritten outcome.values (forall_placed 0 finite)
  cases solves with
  | refused error failed => exact kept
  | reported written reports each notices => exact kept

/-! ## When there is a report -/

/-- Values that fit a store: as many as it has parameters, and the fixed entities read off them are
what they are in the store. -/
structure Fits (store : Store α) (values : Array α) : Prop where
  size : values.size = store.parameters.length
  pinned : ∀ place ∈ Entity.placed 0 store.entities, place.2.fixed = true →
    Entity.readAt values place = place.2

/-- The values a run leaves fit the store it started from. -/
theorem fits_run [Scalar.StrictOrder α] (problem : Problem α)
    (laid : Layout.ofStore store = .ok problem.layout) (polls : Nat → Bool) :
    store.Fits (Newton.run problem polls store.parameters.toArray).values where
  size := (Newton.run_agrees problem polls store.parameters.toArray).size
  pinned _ member fixed := Newton.readAt_run_of_fixed laid polls member fixed

/-- The parameters of the entities read off fitting values are the values. -/
theorem Fits.parameters {values : Array α} (fits : store.Fits values) :
    ((Entity.placed 0 store.entities).map (Entity.readAt values)).flatMap Entity.parameters =
      values.toList :=
  Entity.flatMap_readAt (by simpa [Store.parameters] using fits.size)

theorem Fits.written {values : Array α} (fits : store.Fits values)
    (finite : ∀ x ∈ values, Scalar.isFinite x = true) : (store.rewritten values).1 = .ok () := by
  cases written : (store.rewritten values).1 with
  | ok done => rfl
  | error error =>
      obtain ⟨place, member, _, unbounded, _⟩ := Entity.rewritten_error written
      rw [Entity.isFinite, List.all_eq_false] at unbounded
      obtain ⟨x, read, bad⟩ := unbounded
      refine absurd (finite x ?_) bad
      rw [← Array.mem_toList_iff, ← fits.parameters]
      exact List.mem_flatMap.mpr ⟨_, List.mem_map_of_mem member, read⟩

/-- When writing back succeeds, the parameters written are the values. -/
theorem Fits.parameters_moved {values : Array α} (fits : store.Fits values)
    (written : (store.rewritten values).1 = .ok ()) :
    (store.moved values).parameters = values.toList := by
  obtain ⟨entities, _⟩ := Entity.rewritten_ok fits.pinned written
  rw [Store.parameters, moved, rewritten, entities]
  exact fits.parameters

/-- **A solve reports exactly when all values the run leaves are finite.** -/
theorem Solves.report_iff (solves : Solves store layout outcome solved)
    (fits : store.Fits outcome.values)
    (finite : ∀ entity ∈ store.entities, entity.isFinite = true) :
    (∃ report, solved.report = .ok report) ↔ ∀ x ∈ outcome.values, Scalar.isFinite x = true := by
  constructor
  · rintro ⟨report, reported⟩
    cases solves with
    | refused error failed => cases reported
    | reported written reports each notices =>
        have kept := Entity.isFinite_rewritten outcome.values (forall_placed 0 finite)
        intro x member
        rw [← Array.mem_toList_iff, ← fits.parameters_moved written] at member
        obtain ⟨entity, present, own⟩ := List.mem_flatMap.mp member
        exact List.all_eq_true.mp (kept entity present) x own
  · intro bounded
    cases solves with
    | refused error failed =>
        rw [fits.written bounded] at failed
        cases failed
    | reported written reports each notices => exact ⟨_, rfl⟩

/-- A solve without a report names parameters that are not finite. -/
theorem Solves.report_error (solves : Solves store layout outcome solved) {error : Error α}
    (failed : solved.report = .error error) :
    ∃ parameters : List α, parameters.all Scalar.isFinite = false ∧
      error = .parameterNotFinite parameters := by
  cases solves with
  | refused error' refused =>
      cases failed
      obtain ⟨place, _, _, unbounded, same⟩ := Entity.rewritten_error refused
      exact ⟨_, unbounded, same⟩
  | reported written reports each notices => cases failed

theorem Solves.report_run (solves : Solves store layout outcome solved) {report : Report α}
    (reported : solved.report = .ok report) :
    report.ending = outcome.ending ∧ report.history = outcome.history.toList ∧
      report.residual = outcome.residual := by
  cases solves with
  | refused error failed => cases reported
  | reported written reports each notices =>
      cases reported
      exact ⟨rfl, rfl, rfl⟩

/-! ## What is measured before and after -/

theorem residuals_of_laid (laid : Layout.ofStore store = .ok layout) :
    store.residuals = .ok (layout.residuals store.parameters.toArray).toList := by
  rw [Store.residuals, laid]
  rfl

/-- A solve leaves the flat view of the store as it was, apart from the values. -/
theorem Solves.laid_after (solves : Solves store layout outcome solved)
    (laid : Layout.ofStore store = .ok layout) : Layout.ofStore solved.store = .ok layout := by
  rw [Layout.ofStore_of_framed (solves.framed laid), laid]

/-- After a report, the parameters of the store are the values the run left. -/
theorem Solves.parameters_after (solves : Solves store layout outcome solved)
    (fits : store.Fits outcome.values) {report : Report α} (reported : solved.report = .ok report) :
    solved.store.parameters = outcome.values.toList := by
  cases solves with
  | refused error failed => cases reported
  | reported written reports each notices => exact fits.parameters_moved written

/-- **After a report, the residuals of the store are those at the values the run left.** -/
theorem Solves.residuals_after (solves : Solves store layout outcome solved)
    (laid : Layout.ofStore store = .ok layout) (fits : store.Fits outcome.values)
    {report : Report α} (reported : solved.report = .ok report) :
    solved.store.residuals = .ok (layout.residuals outcome.values).toList := by
  rw [residuals_of_laid (solves.laid_after laid), solves.parameters_after fits reported,
    Array.toArray_toList]

end Store

end PlanarSketch
