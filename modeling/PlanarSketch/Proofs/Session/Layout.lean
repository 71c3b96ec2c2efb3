import PlanarSketch.Proofs.Layout.Named
import PlanarSketch.Proofs.Layout.Represents
import PlanarSketch.Proofs.Session.Reachable

/-!
# The flat view in a reachable session

Each name stands for one entity of a reachable store, and its constraints refer only to entities
that are there. So it always has a flat view, which represents it
(`Session.Reachable.exists_represents`), and a constraint that is bound to the flat view, listed in
the store or not, is measured on the entities it names (`Session.Reachable.evaluate_eq_measure`).
-/

set_option autoImplicit false

namespace PlanarSketch

namespace Session

variable {session : Session}

/-- **The flat view represents the store.** -/
theorem Reachable.exists_represents (reached : Reachable session) :
    ∃ layout, Layout.ofStore session.sketch.store = .ok layout ∧
      layout.Represents session.sketch.store :=
  ⟨_, Layout.ofStore_of_coherent reached.sound.coherent,
    Layout.represents_laid reached.sound.coherent⟩

/-- Two points, the first of them fixed, use up four slots. The second of these has no column, and
there are two unknowns for one equation. -/
theorem represents_twoPoints :
    ∃ layout, Layout.ofStore (twoPoints (.obj []) 0.75).sketch.store = .ok layout ∧
      layout.blocks.flatMap Block.slots = [0, 1, 2, 3] ∧ layout.columnOf 1 = none ∧
      (layout.unknowns : Int) = 2 ∧ layout.equations = 1 := by
  have reached := reachable_twoPoints (.obj []) 0.75
  obtain ⟨layout, laid, represents⟩ := reached.exists_represents
  cases laid.symm.trans (Layout.ofStore_of_coherent reached.sound.coherent)
  have parameters : (twoPoints (.obj []) 0.75).sketch.store.parameters.length = 4 := by
    decide +kernel
  have freedom : (twoPoints (.obj []) 0.75).sketch.store.freedom.unknowns = 2 := by decide +kernel
  refine ⟨_, laid, ?_, ?_, represents.unknowns.trans freedom,
    represents.equations.trans (by decide +kernel)⟩
  · rw [represents.slots, parameters]
    rfl
  · refine (represents.pinned 1 (by omega)).mpr ?_
    decide +kernel

/-- **Measuring in the flat view is measuring the entities.** A constraint is bound to the flat view
of a reachable store and measured there. If its names are all known, this is the formula of its kind
on the points and directions of the entities that have them, with its value. It fails just when some
name is not known, and reports the first. -/
theorem Reachable.evaluate_eq_measure (reached : Reachable session)
    (constraint : Constraint Float) :
    ∃ layout, Layout.ofStore session.sketch.store = .ok layout ∧
      session.sketch.store.evaluate constraint =
        (Layout.bind layout.blocks constraint).map
          (Bound.residual session.sketch.store.parameters.toArray) ∧
      ((∀ name ∈ constraint.relation.refs, session.sketch.store.hasEntity name = true) →
        ∃ entities, constraint.relation.resolve session.sketch.store.named = .ok entities ∧
          session.sketch.store.evaluate constraint =
            .ok (entities.measure (constraint.value.getD Scalar.zero))) ∧
      ∀ error, session.sketch.store.evaluate constraint = .error error ↔ ∃ missing,
        constraint.relation.refs.find? (fun name => !session.sketch.store.hasEntity name) =
          some missing ∧ error = .nameUnknown (.str missing) := by
  refine ⟨_, Layout.ofStore_of_coherent reached.sound.coherent, ?_, Store.evaluate_of_known,
    session.sketch.store.evaluate_eq_error_iff constraint⟩
  rw [Store.evaluate]
  change _ = (Layout.bind (Block.ofEntities 0 session.sketch.store.entities) constraint).map _
  cases Layout.bind (Block.ofEntities 0 session.sketch.store.entities) constraint <;> rfl

/-- A constraint that the point `A` coincides with what has a given name. -/
def meets (name : Text) : Constraint Float :=
  { name := "m", relation := .coincident "A" name, value := none, tolerance := 0.5,
    priority := .int 1, satisfied := .bool false }

/-- How far two points are from coinciding is measured without a constraint between them in the
store. There is no third point. -/
theorem evaluate_twoPoints :
    (∃ first second, (twoPoints (.obj []) 0.75).sketch.store.named "A" = .ok first ∧
      (twoPoints (.obj []) 0.75).sketch.store.named "B" = .ok second ∧
      (twoPoints (.obj []) 0.75).sketch.store.evaluate (meets "B") =
        .ok (Relation.separation first.point second.point)) ∧
    (twoPoints (.obj []) 0.75).sketch.store.evaluate (meets "C") =
      .error (.nameUnknown (.str "C")) := by
  have reached := reachable_twoPoints (.obj []) 0.75
  obtain ⟨_, _, _, measured, _⟩ := reached.evaluate_eq_measure (meets "B")
  obtain ⟨_, _, _, _, fails⟩ := reached.evaluate_eq_measure (meets "C")
  constructor
  · obtain ⟨entities, resolved, evaluated⟩ := measured (by decide +kernel)
    obtain ⟨first, foundFirst, rest⟩ := ok_of_bind resolved
    obtain ⟨second, foundSecond, done⟩ := ok_of_bind rest
    cases done
    exact ⟨first, second, foundFirst, foundSecond, evaluated⟩
  · exact (fails _).mpr ⟨"C", by decide +kernel, rfl⟩

end Session

end PlanarSketch
