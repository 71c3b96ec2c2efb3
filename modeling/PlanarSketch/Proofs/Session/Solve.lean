import PlanarSketch.Proofs.Session.Action

/-!
# Solving in a session

What a solve in a session does beyond the log is what the solve of its store does: without a fault
the session takes over the solved store and answers its report, with a fault it stays as it was
(`Session.perform_solve`).
-/

set_option autoImplicit false

namespace PlanarSketch

namespace Session

/-! ## Logging -/

/-- An action that only writes to the log, and does not fail. -/
def Logs (action : Action Unit) : Prop :=
  ∀ session, ∃ log, Action.perform action session = (.ok (), { session with log })

theorem logs_write (line : LogLine) : Logs (write line) := by
  intro session
  rw [write, Action.perform_modify]
  split
  · exact ⟨session.log, rfl⟩
  · exact ⟨_, rfl⟩

theorem logs_forIn {β : Type} (lines : List β) (line : β → LogLine) :
    Logs (forIn lines PUnit.unit fun item _ =>
      do write (line item); pure (ForInStep.yield PUnit.unit)) := by
  induction lines with
  | nil => exact fun session => ⟨session.log, rfl⟩
  | cons item rest ih =>
      intro session
      obtain ⟨between, first⟩ := logs_write (line item) session
      obtain ⟨log, later⟩ := ih { session with log := between }
      refine ⟨log, ?_⟩
      rw [List.forIn_cons, bind_assoc, Action.perform_bind_ok first, pure_bind]
      exact later

/-! ## Solving -/

/-- **Solving in a session is solving its store.** A fault leaves the store as it was; otherwise the
session takes over the solved store, whether there is a report or not. -/
theorem perform_solve {session : Session} {config : Config} {polls : Nat → Bool}
    {layout : Layout Float} {solved : Solved Float}
    (laid : Layout.ofStore session.sketch.store = .ok layout)
    (solves : session.sketch.store.solve config.settings (Formulas.given layout session.formulas)
      polls = .ok solved) :
    ∃ log, Action.perform (solve config polls) session =
      match solved.outcome.fault? config layout session.formulas with
      | some fault => (.error fault.error, { session with log })
      | none =>
        (solved.report,
          { session with sketch := { session.sketch with store := solved.store }, log }) := by
  rw [solve, Action.perform_bind_ok (Action.perform_get session), laid,
    Action.perform_bind_ok (Action.perform_lift _ session)]
  dsimp only
  rw [solves, Action.perform_bind_ok (Action.perform_lift _ session)]
  obtain ⟨counted, first⟩ := logs_write solved.freedom.logLine session
  rw [Action.perform_bind_ok first]
  cases solved.outcome.fault? config layout session.formulas with
  | some fault =>
      obtain ⟨log, traced⟩ := logs_forIn (solved.outcome.trace.toList.take (fault.iteration - 1))
        Iteration.logLine { session with log := counted }
      exact ⟨log, by rw [Action.perform_bind_ok traced, Action.perform_throw]⟩
  | none =>
      obtain ⟨between, traced⟩ := logs_forIn solved.outcome.trace.toList Iteration.logLine
        { session with log := counted }
      rw [Array.forIn_toList] at traced
      dsimp only
      rw [Action.perform_bind_ok traced, setStore,
        Action.perform_bind_ok (Action.perform_modify _ _)]
      cases reported : solved.report with
      | error error => exact ⟨between, Action.perform_bind_error (Action.perform_lift _ _) _⟩
      | ok report =>
          obtain ⟨log, closed⟩ := logs_write report.logLine
            { session with sketch := { session.sketch with store := solved.store }, log := between }
          refine ⟨log, ?_⟩
          rw [Action.perform_bind_ok (Action.perform_lift _ _), Action.perform_bind_ok closed,
            Action.perform_pure]

end Session

end PlanarSketch
