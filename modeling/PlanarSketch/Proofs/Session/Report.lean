import PlanarSketch.Proofs.Session.Reachable

/-!
# What a report says is so

A report is computed from the values a run leaves, while a caller sees the store. The two agree
(`Report.Agrees`): the entities of the report are those of the store, the residual reported for each
constraint is the one measured afresh from the store, the flags in the report and in the store say
whether it is within the tolerance, and the residual of the report is the norm of the fresh
residuals, unless it is absent. The ending fits the residual.

Every report of a solve from a reachable session agrees with the store the solve leaves
(`Session.report_agrees`). The residual is absent when the first norm of a run that was not told to
stop was not finite; a run that was told to stop reports even a norm that is undefined.
-/

set_option autoImplicit false

namespace PlanarSketch

/-- The report on a constraint with a residual. -/
def Constraint.reportOf (constraint : Constraint Float) (residual : Float) :
    ConstraintReport Float :=
  { name := constraint.name, residual, satisfied := Store.within residual constraint.tolerance }

/-- A report agrees with the store it is about, when the store was another before the solve. -/
structure Report.Agrees (report : Report Float) (settings : Settings Float)
    (before after : Store Float) : Prop where
  entities : report.entities = after.entities
  residuals : ∃ initial fresh, before.residuals = .ok initial ∧ after.residuals = .ok fresh ∧
    fresh.length = after.constraints.length ∧
    report.constraints = List.zipWith Constraint.reportOf after.constraints fresh ∧
    report.residual =
      if report.ending = .cancelled ∨ Scalar.isFinite (Scalar.norm initial) = true
      then some (Scalar.norm fresh) else none
  flags : after.constraints.map Constraint.satisfied =
    report.constraints.map fun constraint => Json.bool constraint.satisfied
  success : report.success = true ↔ report.ending = .converged
  converged : report.ending = .converged →
    ∃ residual, report.residual = some residual ∧ Scalar.lt residual settings.tolerance = true
  missed : report.ending ≠ .converged → report.ending ≠ .cancelled →
    ∀ residual, report.residual = some residual → Scalar.lt residual settings.tolerance = false

namespace Store

/-- Reports on constraints are those of the residuals in order. -/
theorem constraintReports_eq (store : Store Float) (layout : Layout Float) (values : Array Float) :
    store.constraintReports layout values =
      List.zipWith Constraint.reportOf store.constraints (layout.residuals values).toList := by
  have measured :
      (layout.residuals values).toList = layout.bound.toList.map (Bound.residual values) :=
    Array.toList_map
  rw [constraintReports, measured, List.zipWith_map_right]
  rfl

theorem satisfied_noteSatisfied (store : Store Float) {reports : List (ConstraintReport Float)}
    (paired : reports.length = store.constraints.length) :
    (store.noteSatisfied reports).constraints.map Constraint.satisfied =
      reports.map fun report => Json.bool report.satisfied := by
  obtain ⟨entities, constraints⟩ := store
  rw [noteSatisfied]
  dsimp only at paired ⊢
  induction constraints generalizing reports with
  | nil =>
      rw [List.length_eq_zero_iff.mp paired]
      rfl
  | cons constraint rest ih =>
      cases reports with
      | nil => cases paired
      | cons report others => exact congrArg (List.cons _) (ih (Nat.succ.inj paired))

theorem reportOf_of_framed {before after : List (Constraint Float)}
    (framed : List.Forall₂ Constraint.Framed before after) (residuals : List Float) :
    List.zipWith Constraint.reportOf after residuals =
      List.zipWith Constraint.reportOf before residuals := by
  induction framed generalizing residuals with
  | nil => rfl
  | @cons before after _ _ first _ ih =>
      cases residuals with
      | nil => rfl
      | cons residual others =>
          have same : after.reportOf residual = before.reportOf residual := by
            rw [show after = { before with satisfied := after.satisfied } from first]
            rfl
          rw [List.zipWith_cons_cons, List.zipWith_cons_cons, ih, same]

/-- **A report agrees with the store it is about.** -/
theorem Solves.agrees {store : Store Float} (problem : Problem Float) {polls : Nat → Bool}
    {solved : Solved Float} {report : Report Float}
    (laid : Layout.ofStore store = .ok problem.layout)
    (solves : store.Solves problem.layout
      (Newton.run problem polls store.parameters.toArray) solved)
    (reported : solved.report = .ok report) :
    report.Agrees problem.settings store solved.store := by
  have fits := fits_run problem laid polls
  have after := solves.residuals_after laid fits reported
  have residual := Newton.run_residual problem polls store.parameters.toArray
  have converged := Newton.run_converged_iff problem polls store.parameters.toArray
  generalize Newton.run problem polls store.parameters.toArray = outcome at *
  cases solves with
  | refused error failed => cases reported
  | reported written reports each notices =>
      cases reported
      have paired := length_constraintReports laid outcome.values
      rw [← each] at paired
      have noted : List.Forall₂ Constraint.Framed (store.moved outcome.values).constraints _ :=
        framed_notes paired
      have equations : problem.layout.equations = store.constraints.length := by
        obtain ⟨_, _, bindings⟩ := Layout.ofStore_inv laid
        rw [Layout.equations, ← Array.length_toList, length_of_mapM bindings]
      refine ⟨rfl, ⟨_, _, residuals_of_laid laid, after, ?_, ?_, residual⟩, ?_, ?_, ?_, ?_⟩
      · rw [Vector.length_toList, equations]
        exact noted.length_eq
      · refine Eq.trans ?_ (reportOf_of_framed noted _).symm
        exact each.trans (constraintReports_eq _ _ _)
      · exact satisfied_noteSatisfied (store.moved outcome.values) paired
      · simp [Report.success]
      · intro converges
        have untold : outcome.ending ≠ .cancelled := by
          rw [show outcome.ending = .converged from converges]
          nofun
        exact (converged untold).mp converges
      · intro fails untold residual same
        by_contra small
        exact fails ((converged untold).mpr ⟨residual, same, Bool.of_not_eq_false small⟩)

end Store

namespace Session

/-- **Every report agrees with the store that the solve leaves.** -/
theorem report_agrees {session : Session} (reached : Reachable session) (config : Config)
    (polls : Nat → Bool) :
    (∀ (report : Report Float) (after : Session),
      Action.perform (solve config polls) session = (.ok report, after) →
        report.Agrees config.settings session.sketch.store after.sketch.store) ∧
    ∀ (formulas : Formulas Float) (solved : Solved Float) (report : Report Float),
      session.sketch.store.solve config.settings formulas polls = .ok solved →
        solved.report = .ok report →
          report.Agrees config.settings session.sketch.store solved.store := by
  constructor
  · intro report after done
    obtain ⟨layout, solved, laid, solves, reported, same⟩ := reached.solves_of_perform done
    rw [same]
    exact Store.Solves.agrees (session.problem layout config) laid solves reported
  · intro formulas solved report solving reported
    obtain ⟨layout, laid, solves⟩ := reached.solves_of_solve solving
    exact Store.Solves.agrees { layout, settings := config.settings, formulas } laid solves reported

/-- The report on two points, the second moved to its distance, agrees with the store. -/
theorem report_twoPoints_agrees :
    ∃ (report : Report Float) (after : Session),
      Action.perform (solve (twoPoints (.obj []) 0.75).sketch.config fun _ => false)
        (twoPoints (.obj []) 0.75) = (.ok report, after) ∧
      report.Agrees (twoPoints (.obj []) 0.75).sketch.config.settings
        (twoPoints (.obj []) 0.75).sketch.store after.sketch.store := by
  have reports : (Action.perform (solve (twoPoints (.obj []) 0.75).sketch.config fun _ => false)
      (twoPoints (.obj []) 0.75)).1.isOk = true := by decide +kernel
  have agrees := (report_agrees (reachable_twoPoints (.obj []) 0.75)
    (twoPoints (.obj []) 0.75).sketch.config fun _ => false).1
  rcases done : Action.perform (solve (twoPoints (.obj []) 0.75).sketch.config fun _ => false)
      (twoPoints (.obj []) 0.75) with ⟨_ | report, after⟩
  · rw [done] at reports
    cases reports
  · exact ⟨report, after, rfl, agrees report after done⟩

/-- A line so long that the length of its direction overflows, to be made vertical. -/
def longLine : Session :=
  afterAll [
    .addShape .line [.float (-1e308), .float 0.0, .float 1e308, .float 0.0]
      (.bool false) (.str "L"),
    .constrain .vertical [.str "L"] .null Constraint.defaultTolerance (.str "v")] {}

/-- A run that is told to stop at once reports the norm it measured, here one that is undefined. So
a first norm that is not finite does not make the residual infinite. -/
theorem longLine_residual_undefined :
    Reachable longLine ∧ ∃ (report : Report Float) (after : Session) (initial : List Float)
        (residual : Float),
      Action.perform (solve longLine.sketch.config fun _ => true) longLine = (.ok report, after) ∧
      longLine.sketch.store.residuals = .ok initial ∧
      Scalar.isFinite (Scalar.norm initial) = false ∧
      report.residual = some residual ∧ Scalar.isUndefined residual = true := by
  refine ⟨Reachable.fresh.afterAll _, ?_⟩
  have unbounded : (longLine.sketch.store.residuals.toOption.map fun initial =>
      Scalar.isFinite (Scalar.norm initial)) = some false := by decide +kernel
  have undefined :
      ((Action.perform (solve longLine.sketch.config fun _ => true) longLine).1.toOption.bind
      fun report => report.residual.map Scalar.isUndefined) = some true := by decide +kernel
  rcases done : Action.perform (solve longLine.sketch.config fun _ => true) longLine with
    ⟨_ | report, after⟩
  · rw [done] at undefined
    cases undefined
  · rw [done] at undefined
    obtain ⟨residual, same, noNumber⟩ := Option.map_eq_some_iff.mp undefined
    cases measured : longLine.sketch.store.residuals with
    | error _ =>
        rw [measured] at unbounded
        cases unbounded
    | ok initial =>
        rw [measured] at unbounded
        exact ⟨report, after, initial, residual, rfl, rfl, Option.some.inj unbounded,
          same, noNumber⟩

end Session

end PlanarSketch
