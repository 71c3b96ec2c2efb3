import PlanarSketch.Proofs.Session.Reachable

/-!
# When a solve reports

After a solve from a reachable session all parameters of the sketch are finite, whatever the solve
answers. But it does not always report: a step may take a parameter beyond the largest double, and a
run that ends there leaves values that cannot be written back. There is a report exactly when no
fault ends the run and all values it leaves are finite (`Session.solve_reports_iff`). Under settings
that are doubles, without given formulas, there are no faults (`Outcome.fault?_eq_none`), so the
values alone decide.

A run that is told to stop right after such a step shows that it happens
(`Session.beyond_unreported`).
-/

set_option autoImplicit false

namespace PlanarSketch

/-! ## Runs without faults -/

/-- The double a number is, if it is one. -/
def Number.double? : Number → Option Float
  | .double value => some value
  | _ => none

/-- A configuration whose step and pivot tolerance are doubles, the step not zero. -/
structure Config.IsPlain (config : Config) : Prop where
  step : config.epsilon.double?.map Scalar.isZero = some false
  pivots : config.pivotTolerance.double?.isSome = true

theorem Number.eq_of_double? {number : Number} {value : Float}
    (same : number.double? = some value) :
    number = .double value := by
  cases number with
  | double other => exact congrArg Number.double (Option.some.inj same)
  | truth => cases same
  | whole => cases same

/-- Without given formulas none fails to be read. -/
theorem Fault.ofFormulas_nil (layout : Layout Float) (mode : DerivativeMode) :
    Fault.ofFormulas layout mode [] = [] := by
  have none (bound : Bound Float) : GivenFormula.failure? [] layout bound = none := by
    rw [GivenFormula.failure?]
    split <;> rfl
  unfold Fault.ofFormulas
  split
  · simp [none]
  · rfl

/-- Under a plain configuration and without given formulas a run has no fault. -/
theorem Outcome.fault?_eq_none (outcome : Outcome Float) {config : Config} (plain : config.IsPlain)
    (layout : Layout Float) : outcome.fault? config layout [] = none := by
  obtain ⟨step, epsilon, nonzero⟩ := Option.map_eq_some_iff.mp plain.step
  obtain ⟨tolerance, pivots⟩ := Option.isSome_iff_exists.mp plain.pivots
  have usable : config.epsilon.toStep = .ok step := by
    rw [Number.eq_of_double? epsilon]
    change Fault.checkStep step = _
    rw [Fault.checkStep, nonzero]
    rfl
  rw [Outcome.fault?, Fault.ofFormulas_nil, usable, Number.eq_of_double? pivots]
  split <;> rfl

namespace Session

/-! ## Reports -/

/-- A solve answers a report. -/
def Reports (session : Session) (config : Config) (polls : Nat → Bool) : Prop :=
  ∃ report, (Action.perform (solve config polls) session).1 = .ok report

/-- **A solve leaves finite parameters, and reports exactly when no fault ends the run and the
values it leaves are finite.** -/
theorem solve_reports_iff {session : Session} (reached : Reachable session) (config : Config)
    (polls : Nat → Bool) :
    (∀ entity ∈ (Action.perform (solve config polls) session).2.sketch.store.entities,
      entity.isFinite = true) ∧
    (∃ layout, Layout.ofStore session.sketch.store = .ok layout ∧
      (session.Reports config polls ↔
        (session.outcome layout config polls).fault? config layout session.formulas = none ∧
          ∀ x ∈ (session.outcome layout config polls).values, Scalar.isFinite x = true) ∧
      (session.formulas = [] → config.IsPlain →
        (session.outcome layout config polls).fault? config layout session.formulas = none) ∧
      ∀ error, (Action.perform (solve config polls) session).1 = .error error →
        (∃ fault, (session.outcome layout config polls).fault? config layout
          session.formulas = some fault ∧
          error = fault.error) ∨
        ∃ parameters : List Float, parameters.all Scalar.isFinite = false ∧
          error = .parameterNotFinite parameters) ∧
    ∀ formulas : Formulas Float, ∃ solved,
      session.sketch.store.solve config.settings formulas polls = .ok solved ∧
      (∀ entity ∈ solved.store.entities, entity.isFinite = true) ∧
      ((∃ report, solved.report = .ok report) ↔
        ∀ x ∈ solved.outcome.values, Scalar.isFinite x = true) := by
  have sound := reached.sound
  have finite : ∀ entity ∈ session.sketch.store.entities, entity.isFinite = true :=
    fun entity member => (sound.entities entity member).finite
  obtain ⟨layout, solved, log, laid, solves, performed⟩ := reached.perform_solve config polls
  have fits := Store.fits_run (session.problem layout config) laid polls
  refine ⟨?_, ⟨layout, laid, ?_, ?_, ?_⟩, ?_⟩
  · rw [performed]
    split
    · exact finite
    · exact solves.isFinite finite
  · rw [Reports, performed, ← solves.report_iff fits finite]
    cases (session.outcome layout config polls).fault? config layout session.formulas with
    | some fault => simp
    | none => simp
  · intro unformed plain
    rw [unformed]
    exact Outcome.fault?_eq_none _ plain layout
  · intro error failed
    rw [performed] at failed
    split at failed
    case h_1 fault found =>
      cases failed
      exact .inl ⟨fault, found, rfl⟩
    case h_2 _ => exact .inr (solves.report_error failed)
  · intro formulas
    obtain ⟨solved, solving, solves⟩ :=
      Store.solves_of_laid laid sound.entityNames config.settings formulas polls
    have fits := Store.fits_run { layout, settings := config.settings, formulas } laid polls
    refine ⟨solved, solving, solves.isFinite finite, ?_⟩
    rw [solves.outcome_eq]
    exact solves.report_iff fits finite

/-- Two points, the second moved to its distance, are reported on, so the run left finite values. -/
theorem solve_twoPoints_finite :
    (∀ entity ∈ (Action.perform (solve (twoPoints (.obj []) 0.75).sketch.config fun _ => false)
      (twoPoints (.obj []) 0.75)).2.sketch.store.entities, entity.isFinite = true) ∧
    ∃ layout, Layout.ofStore (twoPoints (.obj []) 0.75).sketch.store = .ok layout ∧
      ∀ x ∈ ((twoPoints (.obj []) 0.75).outcome layout (twoPoints (.obj []) 0.75).sketch.config
        fun _ => false).values, Scalar.isFinite x = true := by
  obtain ⟨finite, ⟨layout, laid, reports, _, _⟩, _⟩ :=
    solve_reports_iff (reachable_twoPoints (.obj []) 0.75) (twoPoints (.obj []) 0.75).sketch.config
      fun _ => false
  have done : (Action.perform (solve (twoPoints (.obj []) 0.75).sketch.config fun _ => false)
      (twoPoints (.obj []) 0.75)).1.isOk = true := by decide +kernel
  refine ⟨finite, layout, laid, (reports.mp ?_).2⟩
  cases answer : (Action.perform (solve (twoPoints (.obj []) 0.75).sketch.config fun _ => false)
      (twoPoints (.obj []) 0.75)).1 with
  | error error =>
      rw [answer] at done
      cases done
  | ok report => exact ⟨report, answer⟩

/-- A sixteenth of what is beyond the largest double. -/
def giant : Float := 1.1235582092889474e307

/-- A line near the lower ends of both axes. Its start is wanted at a distance from two fixed
points, and it is wanted both horizontal and vertical. -/
def beyond : Session :=
  afterAll [
    .begin (some (.obj [("jacobian_mode", .str "central"), ("fd_epsilon", .float giant),
      ("damping_factor", .float 1.0), ("pivot_tolerance", .float 0.0)])),
    .addShape .point [.float (-12.0 * giant), .float (-14.0 * giant)] (.bool true) (.str "A"),
    .addShape .point [.float (-14.0 * giant), .float (-12.0 * giant)] (.bool true) (.str "B"),
    .addShape .line [.float (-14.0 * giant), .float (-14.0 * giant),
      .float (-13.0 * giant), .float (-13.0 * giant)] (.bool false) (.str "L"),
    .constrain .distance [.str "A", .str "L"] (.float (2.0 * giant))
      Constraint.defaultTolerance (.str "a"),
    .constrain .distance [.str "B", .str "L"] (.float (2.0 * giant))
      Constraint.defaultTolerance (.str "b"),
    .constrain .horizontal [.str "L"] .null Constraint.defaultTolerance (.str "h"),
    .constrain .vertical [.str "L"] .null Constraint.defaultTolerance (.str "v")] {}

/-- The first step takes the end of the line beyond the largest double. A run that is told to stop
then leaves it there, and the solve fails instead of reporting. No fault is the cause. -/
theorem beyond_unreported :
    Reachable beyond ∧ beyond.formulas = [] ∧ beyond.sketch.config.IsPlain ∧
      ∃ parameters, (Action.perform (solve beyond.sketch.config fun k => decide (1 ≤ k)) beyond).1 =
        .error (.parameterNotFinite parameters) := by
  have reached : Reachable beyond := Reachable.fresh.afterAll _
  have plain : beyond.sketch.config.IsPlain := ⟨by decide +kernel, by decide +kernel⟩
  have unformed : beyond.formulas = [] := List.isEmpty_iff.mp (by decide +kernel)
  have failed :
      (Action.perform (solve beyond.sketch.config fun k => decide (1 ≤ k)) beyond).1.isOk =
      false := by decide +kernel
  refine ⟨reached, unformed, plain, ?_⟩
  obtain ⟨layout, solved, log, laid, solves, performed⟩ :=
    reached.perform_solve beyond.sketch.config fun k => decide (1 ≤ k)
  rw [unformed, Outcome.fault?_eq_none _ plain] at performed
  rw [performed] at failed ⊢
  cases answer : solved.report with
  | ok report =>
      rw [answer] at failed
      cases failed
  | error error =>
      obtain ⟨parameters, _, same⟩ := solves.report_error answer
      exact ⟨parameters, congrArg Except.error same⟩

end Session

end PlanarSketch
