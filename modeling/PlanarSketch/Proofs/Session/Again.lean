import PlanarSketch.Proofs.Session.Reachable
import PlanarSketch.Proofs.Solve.Again

/-!
# Solving twice

A solve that succeeded leaves nothing to do for a second one under the same configuration that
nothing tells to stop: the second converges in its first iteration, reports the same residual with a
history of that one entry and the same about every constraint, and leaves the session as it was, but
for the log (`Session.solve_again`). No fault can end it, since it builds no matrix.

The same holds of the solve of the store by itself, whatever the formulas of the two solves.
-/

set_option autoImplicit false

namespace PlanarSketch

namespace Session

/-- A store with distinct entity names and a flat view can be solved again after a solve. -/
theorem exists_next {store : Store Float} {layout : Layout Float} {outcome : Outcome Float}
    {solved : Solved Float} (sound : store.Sound) (laid : Layout.ofStore store = .ok layout)
    (solves : store.Solves layout outcome solved) (settings : Settings Float)
    (formulas : Formulas Float) :
    ∃ next, solved.store.solve settings formulas (fun _ => false) = .ok next ∧
      solved.store.Solves layout
        (Newton.run { layout, settings, formulas } (fun _ => false) solved.store.parameters.toArray)
        next := by
  have distinct : Ledger.Distinct solved.store.entities := by
    rw [Ledger.Distinct, (solves.framed laid).entityNames]
    exact sound.entityNames
  exact Store.solves_of_laid (solves.laid_after laid) distinct settings formulas _

/-- **A second solve after a successful one changes nothing.** -/
theorem solve_again {session : Session} (reached : Reachable session) {config : Config}
    (settled : config.Settled) (polls : Nat → Bool) :
    (∀ (report : Report Float) (after : Session),
      Action.perform (solve config polls) session = (.ok report, after) → report.success = true →
        ∃ again log, again.Repeats report ∧
          Action.perform (solve config fun _ => false) after = (.ok again, { after with log })) ∧
    ∀ (first second : Formulas Float) (solved : Solved Float) (report : Report Float),
      session.sketch.store.solve config.settings first polls = .ok solved →
        solved.report = .ok report → report.success = true →
          ∃ next again, again.Repeats report ∧ next.report = .ok again ∧ next.store = solved.store ∧
            solved.store.solve config.settings second (fun _ => false) = .ok next := by
  have finite : ∀ entity ∈ session.sketch.store.entities, entity.isFinite = true :=
    fun entity member => (reached.sound.entities entity member).finite
  constructor
  · intro report after done success
    obtain ⟨layout, solved, log, laid, solves, performed⟩ := reached.perform_solve config polls
    rw [performed] at done
    split at done
    case h_1 _ => cases done
    case h_2 _ =>
      obtain ⟨reported, rfl⟩ := Prod.mk.inj done
      obtain ⟨next, solving, solvesNext⟩ := exists_next reached.sound laid solves config.settings
        (Formulas.given layout session.formulas)
      obtain ⟨unbuilt, same, again, reportedAgain, repeats⟩ :=
        solves.again (session.problem layout config) _ laid finite reported
          (of_decide_eq_true success) settled.budget_pos rfl solvesNext
      let left : Session :=
        { session with sketch := { session.sketch with store := solved.store }, log }
      obtain ⟨later, performedNext⟩ := @perform_solve left _ _ _ _ (solves.laid_after laid) solving
      refine ⟨again, later, repeats, ?_⟩
      rw [performedNext, Outcome.fault?, unbuilt, reportedAgain, same]
      rfl
  · intro first second solved report solving reported success
    obtain ⟨layout, laid, solves⟩ := reached.solves_of_solve solving
    obtain ⟨next, solvingNext, solvesNext⟩ :=
      exists_next reached.sound laid solves config.settings second
    obtain ⟨_, same, again, reportedAgain, repeats⟩ :=
      solves.again { layout, settings := config.settings, formulas := first } _ laid finite reported
        (of_decide_eq_true success) settled.budget_pos rfl solvesNext
    exact ⟨next, again, repeats, reportedAgain, same, solvingNext⟩

/-- Two points, the second moved to its distance, stay as they are when they are solved again. -/
theorem solve_twoPoints_again :
    ∃ (report again : Report Float) (after : Session) (log : Array LogLine),
      Action.perform (solve (twoPoints (.obj []) 0.75).sketch.config fun _ => false)
        (twoPoints (.obj []) 0.75) = (.ok report, after) ∧
      again.Repeats report ∧
      Action.perform (solve (twoPoints (.obj []) 0.75).sketch.config fun _ => false) after =
        (.ok again, { after with log }) := by
  have reached := reachable_twoPoints (.obj []) 0.75
  have ended : (Action.perform (solve (twoPoints (.obj []) 0.75).sketch.config fun _ => false)
      (twoPoints (.obj []) 0.75)).1.toOption.map Report.success = some true := by decide +kernel
  rcases done : Action.perform (solve (twoPoints (.obj []) 0.75).sketch.config fun _ => false)
      (twoPoints (.obj []) 0.75) with ⟨_ | report, after⟩
  · rw [done] at ended
    cases ended
  · rw [done] at ended
    obtain ⟨again, log, repeats, performed⟩ :=
      (solve_again reached reached.settled _).1 report after done (Option.some.inj ended)
    exact ⟨report, again, after, log, rfl, repeats, performed⟩

end Session

end PlanarSketch
