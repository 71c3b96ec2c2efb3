import PlanarSketch.Proofs.Session.Reachable

/-!
# When a solve keeps the best

Of the runs that are not told to stop and measure a finite norm, exactly those keep the best values
they measured that do not end uphill, with a correction refused at values worse than earlier ones. A
solve in a session whose run neither is told to stop nor ends uphill does not leave the sketch with
a larger residual than it started with (`Session.solve_keeps_best_iff`).

Ending uphill does happen (`Session.refused_not_best`): a wide difference quotient throws a point
onto another, where the distance has no derivative, and the correction is refused with the point
there.
-/

set_option autoImplicit false

namespace PlanarSketch

/-- The norm of the residuals of a store is not larger than it was before. -/
def Store.NoWorse (before after : Store Float) : Prop :=
  ∃ initial fresh, before.residuals = .ok initial ∧ after.residuals = .ok fresh ∧
    Scalar.lt (Scalar.norm initial) (Scalar.norm fresh) = false

/-- A reported solve that was not told to stop and did not end uphill makes a store no worse. -/
theorem Store.Solves.noWorse {store : Store Float} (problem : Problem Float) {polls : Nat → Bool}
    {solved : Solved Float} {report : Report Float}
    (laid : Layout.ofStore store = .ok problem.layout)
    (solves : store.Solves problem.layout
      (Newton.run problem polls store.parameters.toArray) solved)
    (reported : solved.report = .ok report) (untold : report.ending ≠ .cancelled)
    (level : ¬ Newton.Uphill report.ending report.history report.residual) :
    store.NoWorse solved.store := by
  obtain ⟨ending, history, residual⟩ := solves.report_run reported
  rw [ending] at untold
  rw [ending, history, residual] at level
  have measured := solves.residuals_after laid (fits_run problem laid polls) reported
  exact ⟨_, _, residuals_of_laid laid, measured, Newton.run_not_worse problem polls _ untold level⟩

namespace Session

/-- **A run keeps the best values exactly when it does not end uphill, and then a solve does not
make a sketch worse.** -/
theorem solve_keeps_best_iff (polls : Nat → Bool) :
    (∀ (problem : Problem Float) (values : Array Float),
      (Newton.run problem polls values).ending ≠ .cancelled → Newton.usable problem values ≠ [] →
        (Newton.KeepsBest problem values (Newton.run problem polls values) ↔
          ¬ Newton.Uphill (Newton.run problem polls values).ending
            (Newton.run problem polls values).history.toList
              (Newton.run problem polls values).residual)) ∧
    ∀ (session : Session), Reachable session → ∀ (config : Config) (report : Report Float),
      report.ending ≠ .cancelled → ¬ Newton.Uphill report.ending report.history report.residual →
        (∀ after, Action.perform (solve config polls) session = (.ok report, after) →
          session.sketch.store.NoWorse after.sketch.store) ∧
        ∀ (formulas : Formulas Float) (solved : Solved Float),
          session.sketch.store.solve config.settings formulas polls = .ok solved →
            solved.report = .ok report → session.sketch.store.NoWorse solved.store := by
  refine ⟨fun problem values => Newton.run_keepsBest_iff problem polls values, ?_⟩
  intro session reached config report untold level
  constructor
  · intro after done
    obtain ⟨layout, solved, laid, solves, reported, same⟩ := reached.solves_of_perform done
    rw [same]
    exact Store.Solves.noWorse (session.problem layout config) laid solves reported untold level
  · intro formulas solved solving reported
    obtain ⟨layout, laid, solves⟩ := reached.solves_of_solve solving
    exact Store.Solves.noWorse { layout, settings := config.settings, formulas } laid solves
      reported untold level

/-- Two points, the second moved to its distance, are left at the best values, no worse than they
were. -/
theorem solve_twoPoints_keeps_best :
    (∃ layout, Layout.ofStore (twoPoints (.obj []) 0.75).sketch.store = .ok layout ∧
      Newton.KeepsBest
        ((twoPoints (.obj []) 0.75).problem layout (twoPoints (.obj []) 0.75).sketch.config)
        (twoPoints (.obj []) 0.75).sketch.store.parameters.toArray
        ((twoPoints (.obj []) 0.75).outcome layout (twoPoints (.obj []) 0.75).sketch.config
          fun _ => false)) ∧
    (twoPoints (.obj []) 0.75).sketch.store.NoWorse
      (Action.perform (solve (twoPoints (.obj []) 0.75).sketch.config fun _ => false)
        (twoPoints (.obj []) 0.75)).2.sketch.store := by
  generalize named : twoPoints (.obj []) 0.75 = session
  have reached : Reachable session := named ▸ reachable_twoPoints (.obj []) 0.75
  obtain ⟨keeps, noWorse⟩ := solve_keeps_best_iff fun _ => false
  constructor
  · have ended : ((Layout.ofStore session.sketch.store).toOption.map fun layout =>
        decide ((session.outcome layout session.sketch.config fun _ => false).ending =
          .converged) &&
        Scalar.isFinite (Newton.normAt (session.problem layout session.sketch.config)
          session.sketch.store.parameters.toArray)) = some true := by
      subst named
      decide +kernel
    obtain ⟨layout, laid⟩ := Layout.ofStore_of_sound reached.sound
    rw [laid] at ended
    obtain ⟨converged, finite⟩ := Bool.and_eq_true_iff.mp (Option.some.inj ended)
    have converged := of_decide_eq_true converged
    refine ⟨layout, laid, (keeps _ _ ?_ ?_).mpr (Newton.not_uphill ?_)⟩
    · rw [← outcome, converged]
      nofun
    · rw [Ne, Newton.usable_eq_nil_iff, finite]
      nofun
    · rw [← outcome, converged]
      nofun
  · have ended :
        (Action.perform (solve session.sketch.config fun _ => false) session).1.toOption.map
        Report.ending = some .converged := by
      subst named
      decide +kernel
    rcases done : Action.perform (solve session.sketch.config fun _ => false) session with
      ⟨_ | report, after⟩
    · rw [done] at ended
      cases ended
    · rw [done] at ended
      have converged : report.ending = .converged := Option.some.inj ended
      refine (noWorse session reached _ report ?_ (Newton.not_uphill ?_)).1 after done
      · rw [converged]
        nofun
      · rw [converged]
        nofun

/-- Two points wanted at a distance of `0.75`. Difference quotients are as wide as `4`, steps are
taken in full, and no pivot may be skipped. -/
def thrown : Session :=
  twoPoints (.obj [("jacobian_mode", .str "central"), ("fd_epsilon", .float 4.0),
    ("damping_factor", .float 1.0), ("max_rank_deficiency", .int 0)]) 0.75

/-- The first step throws the second point onto the first, where the residual is larger and the
correction is refused. The point stays there, although it was better off where it started. -/
theorem refused_not_best :
    Reachable thrown ∧ ∃ layout, Layout.ofStore thrown.sketch.store = .ok layout ∧
      (thrown.outcome layout thrown.sketch.config fun _ => false).ending =
        .failed (.rankDeficient 2 1) ∧
      Newton.usable (thrown.problem layout thrown.sketch.config)
        thrown.sketch.store.parameters.toArray ≠ [] ∧
      ¬ Newton.KeepsBest (thrown.problem layout thrown.sketch.config)
        thrown.sketch.store.parameters.toArray
        (thrown.outcome layout thrown.sketch.config fun _ => false) := by
  have reached : Reachable thrown := reachable_twoPoints _ _
  refine ⟨reached, ?_⟩
  have worse : ((Layout.ofStore thrown.sketch.store).toOption.map fun layout =>
      let problem := thrown.problem layout thrown.sketch.config
      let outcome := thrown.outcome layout thrown.sketch.config fun _ => false
      let values := thrown.sketch.store.parameters.toArray
      (decide (outcome.ending = .failed (.rankDeficient 2 1)) &&
        Scalar.isFinite (Newton.normAt problem values)) &&
        Scalar.lt (Newton.normAt problem values)
          (Newton.normAt problem outcome.values)) = some true := by
    decide +kernel
  obtain ⟨layout, laid⟩ := Layout.ofStore_of_sound reached.sound
  rw [laid] at worse
  obtain ⟨both, less⟩ := Bool.and_eq_true_iff.mp (Option.some.inj worse)
  obtain ⟨refused, finite⟩ := Bool.and_eq_true_iff.mp both
  refine ⟨layout, laid, of_decide_eq_true refused, ?_, ?_⟩
  · rw [Ne, Newton.usable_eq_nil_iff, finite]
    nofun
  · intro keeps
    have least := keeps.least _ (Newton.initial_mem_usable finite)
    rw [less] at least
    cases least

end Session

end PlanarSketch
