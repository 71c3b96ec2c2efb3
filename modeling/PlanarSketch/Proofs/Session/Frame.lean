import PlanarSketch.Proofs.Session.Reachable

/-!
# What a solve in a session leaves alone

However a solve ends — with a report in any of the four endings, with a parameter that cannot be
written back, or with a fault — it changes nothing of a session but the parameters of entities that
are not fixed, the notes which constraints are satisfied, and the log (`Session.solve_framed`). The
same holds of the solve of the store by itself, whatever the formulas.
-/

set_option autoImplicit false

namespace PlanarSketch

namespace Session

/-- A session after a solve: the store is within its frame, and all else but the log is the same. -/
structure Framed (before after : Session) : Prop where
  store : before.sketch.store.Framed after.sketch.store
  config : after.sketch.config = before.sketch.config
  counters : after.sketch.counters = before.sketch.counters
  verbose : after.verbose = before.verbose
  formulas : after.formulas = before.formulas

/-- **A solve stays within the frame, whatever its end.** -/
theorem solve_framed {session : Session} (reached : Reachable session) (config : Config)
    (polls : Nat → Bool) :
    session.Framed (Action.perform (solve config polls) session).2 ∧
      ∀ (formulas : Formulas Float) (solved : Solved Float),
        session.sketch.store.solve config.settings formulas polls = .ok solved →
          session.sketch.store.Framed solved.store := by
  constructor
  · obtain ⟨layout, solved, log, laid, solves, performed⟩ := reached.perform_solve config polls
    rw [performed]
    split
    · exact ⟨.refl _, rfl, rfl, rfl, rfl⟩
    · exact ⟨solves.framed laid, rfl, rfl, rfl, rfl⟩
  · intro formulas solved solving
    obtain ⟨layout, laid, solves⟩ := reached.solves_of_solve solving
    exact solves.framed laid

/-- Two points stay within their frame when the second is moved to its distance. -/
theorem solve_twoPoints_framed :
    (twoPoints (.obj []) 0.75).Framed
      (Action.perform (solve (twoPoints (.obj []) 0.75).sketch.config fun _ => false)
        (twoPoints (.obj []) 0.75)).2 :=
  (solve_framed (reachable_twoPoints _ _) _ _).1

end Session

end PlanarSketch
