import PlanarSketch.Proofs.Session.Reachable

/-!
# Taking records out

An entity is taken out with the constraints on it and with nothing else: all other records stay as
they are and in their order (`Store.Cascade`). Constraints are taken out by their names, so this
needs that no two constraints share one.

The constraints on an entity go before anyone asks whether the entity is there. That an unknown name
changes nothing is so because nothing in a coherent store refers to what is not there
(`Store.Coherent.removeEntity_of_absent`). A name may be that of an entity and of a constraint at
once; removing by name then takes out the entity, and only without an entity of that name the one
constraint (`Session.Reachable.removal_exact`).
-/

set_option autoImplicit false

namespace PlanarSketch

namespace Store

variable {α : Type} {store : Store α}

/-! ## An entity and what is on it -/

/-- A store after an entity was taken out: the other entities, and the constraints that were not on
it, in their old order. -/
structure Cascade (before : Store α) (name : Text) (after : Store α) : Prop where
  entities : after.entities = before.entities.filter fun entity => entity.name ≠ name
  constraints : after.constraints = before.constraints.filter fun constraint =>
    constraint.name ∉ (before.constraintsOn name).map Constraint.name
  kept : ∀ constraint ∈ before.constraints,
    constraint ∈ after.constraints ↔ constraint ∉ before.constraintsOn name

theorem hasEntity_iff {name : Text} :
    store.hasEntity name = true ↔ ∃ entity ∈ store.entities, entity.name = name := by
  rw [hasEntity, Ledger.contains_iff, Ledger.names, List.mem_map]
  rfl

theorem hasConstraint_iff {name : Text} :
    store.hasConstraint name = true ↔ ∃ constraint ∈ store.constraints, constraint.name = name := by
  rw [hasConstraint, Ledger.contains_iff, Ledger.names, List.mem_map]
  rfl

theorem mem_constraintsOn {name : Text} {constraint : Constraint α} :
    constraint ∈ store.constraintsOn name ↔
      constraint ∈ store.constraints ∧ constraint.refersTo name = true := List.mem_filter

namespace Coherent

/-- A constraint is on an entity when one of its name is. -/
theorem mem_names_constraintsOn (coherent : store.Coherent) {constraint : Constraint α}
    (member : constraint ∈ store.constraints) (name : Text) :
    constraint.name ∈ (store.constraintsOn name).map Constraint.name ↔
      constraint.refersTo name = true := by
  constructor
  · intro named
    obtain ⟨other, listed, same⟩ := List.mem_map.mp named
    obtain ⟨present, refers⟩ := mem_constraintsOn.mp listed
    rwa [← List.inj_on_of_nodup_map coherent.constraintNames present member same]
  · intro refers
    exact List.mem_map_of_mem (mem_constraintsOn.mpr ⟨member, refers⟩)

/-- **Taking out an entity takes out the constraints on it, and nothing else.** -/
theorem cascade (coherent : store.Coherent) (name : Text) :
    store.Cascade name (store.removeEntity name) where
  entities := by
    refine List.filter_congr fun entity _ => ?_
    rw [Bool.eq_iff_iff]
    simp [Named.name]
  constraints := by
    refine List.filter_congr fun constraint member => ?_
    rw [decide_not, Bool.not_inj_iff, Bool.eq_iff_iff, decide_eq_true_iff]
    exact (coherent.mem_names_constraintsOn member name).symm
  kept := by
    intro constraint member
    simp [Store.removeEntity, mem_constraintsOn, member]

/-- **A name that is no entity's changes nothing.** Otherwise a constraint would refer to it. -/
theorem removeEntity_of_absent (coherent : store.Coherent) {name : Text}
    (missing : store.hasEntity name = false) : store.removeEntity name = store := by
  have absent : name ∉ Ledger.names store.entities := by
    rwa [← Ledger.contains_iff, Bool.not_eq_true]
  have unrelated : store.constraints.filter (fun constraint => !constraint.refersTo name) =
      store.constraints := by
    refine List.filter_eq_self.mpr fun constraint member => ?_
    have unreferred : name ∉ constraint.relation.refs :=
      fun referred => absent (coherent.references constraint member name referred)
    simpa [Constraint.refersTo] using unreferred
  rw [Store.removeEntity, Ledger.erase_of_notMem absent, unrelated]

/-- Taking out a constraint takes out one constraint. -/
theorem removeConstraint_of_mem (coherent : store.Coherent) {constraint : Constraint α}
    (member : constraint ∈ store.constraints) :
    ∃ before later, store.constraints = before ++ constraint :: later ∧
      store.removeConstraint constraint.name = { store with constraints := before ++ later } := by
  obtain ⟨before, later, split⟩ := List.append_of_mem member
  have distinct := coherent.constraintNames
  rw [split] at distinct
  refine ⟨before, later, split, ?_⟩
  rw [Store.removeConstraint, split, show constraint.name = Named.name constraint from rfl,
    Ledger.erase_middle distinct]

/-- A coherent store without entities is empty, since every constraint refers to something. -/
theorem eq_empty (coherent : store.Coherent) (none : store.entities = []) : store = {} := by
  obtain ⟨entities, constraints⟩ := store
  cases none
  cases constraints with
  | nil => rfl
  | cons constraint rest =>
      have references := coherent.references constraint List.mem_cons_self
      obtain ⟨name, referred⟩ : ∃ name, name ∈ constraint.relation.refs := by
        cases constraint.relation <;> exact ⟨_, List.mem_cons_self⟩
      cases references name referred

end Coherent

theorem removeConstraint_of_absent {name : Text} (missing : store.hasConstraint name = false) :
    store.removeConstraint name = store := by
  have absent : name ∉ Ledger.names store.constraints := by
    rwa [← Ledger.contains_iff, Bool.not_eq_true]
  rw [removeConstraint, Ledger.erase_of_notMem absent]

end Store

namespace Session

open PlanarSketch.Action

/-! ## Removing by name -/

/-- From a reachable session, asking by a text is asking by name. -/
theorem Reachable.perform_keyed_removeEntity {session : Session} (reached : Reachable session)
    (name : Text) :
    perform (Keyed.removeEntity (.str name)) session = perform (removeEntity name) session := by
  rw [Keyed.removeEntity, perform_bind_ok (perform_store session)]
  split
  case isFalse => rfl
  case isTrue none =>
    -- Asking by value ends early here. Asking by name takes out nothing, since constraints need
    -- entities.
    have empty := reached.sound.coherent.eq_empty (List.isEmpty_iff.mp none)
    obtain ⟨⟨store, config, counters⟩, verbose, formulas, log⟩ := session
    cases empty
    rfl

/-- **Removing is exact.** Taking out an entity answers whether it was there; it takes out the
entity and the constraints on it and nothing else, and from a store without the entity nothing at
all. Removing by name does the same where the name is an entity's, and otherwise takes out the one
constraint of that name, if there is one. -/
theorem Reachable.removal_exact {session : Session} (reached : Reachable session) (name : Text) :
    let store := session.sketch.store
    (∃ (found : Bool) (after : Store Float) (log : Array LogLine),
      perform (removeEntity name) session =
        (.ok found, { session with sketch := { session.sketch with store := after }, log }) ∧
      (found = true ↔ ∃ entity ∈ store.entities, entity.name = name) ∧
      store.Cascade name after ∧ (found = false → after = store)) ∧
    ((∃ entity ∈ store.entities, entity.name = name) →
      perform (remove name) session = perform (removeEntity name) session) ∧
    ((∀ entity ∈ store.entities, entity.name ≠ name) →
      ∃ (found : Bool) (after : Store Float),
        perform (remove name) session =
          (.ok found, { session with sketch := { session.sketch with store := after } }) ∧
        (found = true → ∃ before constraint later, constraint.name = name ∧
          store.constraints = before ++ constraint :: later ∧
          after = { store with constraints := before ++ later }) ∧
        (found = false → after = store ∧
          ∀ constraint ∈ store.constraints, constraint.name ≠ name)) ∧
    perform (Keyed.removeEntity (.str name)) session = perform (removeEntity name) session ∧
    perform (Keyed.remove (.str name)) session = perform (remove name) session := by
  intro store
  have coherent := reached.sound.coherent
  refine ⟨?_, ?_, ?_, reached.perform_keyed_removeEntity name, rfl⟩
  · obtain ⟨log, performed⟩ := perform_removeEntity name session
    exact ⟨_, _, log, performed, Store.hasEntity_iff, coherent.cascade name,
      coherent.removeEntity_of_absent⟩
  · intro present
    rw [perform_remove, if_pos (Store.hasEntity_iff.mpr present)]
  · intro others
    have missing : ¬ store.hasEntity name = true := by
      rw [Store.hasEntity_iff]
      rintro ⟨entity, member, named⟩
      exact others entity member named
    rw [perform_remove, if_neg missing]
    refine ⟨store.hasConstraint name, store.removeConstraint name, rfl, fun found =>
      ?_, fun none => ?_⟩
    · obtain ⟨constraint, member, rfl⟩ := Store.hasConstraint_iff.mp found
      obtain ⟨before, later, split, removed⟩ := coherent.removeConstraint_of_mem member
      exact ⟨before, constraint, later, rfl, split, removed⟩
    · refine ⟨Store.removeConstraint_of_absent none, fun constraint member named => ?_⟩
      rw [Store.hasConstraint_iff.mpr ⟨constraint, member, named⟩] at none
      cases none

/-- A fixed point with everything on it: a constraint that refers to it twice, one that bears the
name of another entity, and one that has nothing to do with it. -/
def tangled : Session :=
  afterAll [
    .addShape .point [.float 0.0, .float 0.0] (.bool true) (.str "A"),
    .addShape .point [.float 1.0, .float 0.0] (.bool false) (.str "B"),
    .addShape .line [.float 0.0, .float 1.0, .float 1.0, .float 1.0] (.bool false) (.str "L"),
    .constrain .distance [.str "B", .str "A"] (.float 1.0) Constraint.defaultTolerance (.str "B"),
    .constrain .horizontal [.str "L"] .null Constraint.defaultTolerance (.str "h"),
    .constrain .coincident [.str "A", .str "A"] .null Constraint.defaultTolerance (.str "twice"),
    .constrain .distance [.str "B", .str "L"] (.float 1.0)
      Constraint.defaultTolerance (.str "d")] {}

/-- The fixed point goes with two of the four constraints, one of them named like another entity.
Taking that constraint's name takes out the entity; a name that is only a constraint's takes out the
constraint, and a name that is nobody's nothing. -/
theorem removal_tangled :
    (∃ (after : Store Float) (log : Array LogLine), perform (removeEntity "A") tangled =
        (.ok true, { tangled with sketch := { tangled.sketch with store := after }, log }) ∧
      Ledger.names after.entities = ["B", "L"] ∧ Ledger.names after.constraints = ["h", "d"]) ∧
    perform (remove "B") tangled = perform (removeEntity "B") tangled ∧
    (∃ after : Store Float, perform (remove "h") tangled =
        (.ok true, { tangled with sketch := { tangled.sketch with store := after } })) ∧
    ∃ log, perform (removeEntity "Z") tangled = (.ok false, { tangled with log }) := by
  have reached : Reachable tangled := Reachable.fresh.afterAll _
  refine ⟨?_, ?_, ?_, ?_⟩
  · obtain ⟨⟨found, after, log, performed, present, cascade, _⟩, _⟩ := reached.removal_exact "A"
    rw [present.mpr (by decide +kernel)] at performed
    refine ⟨after, log, performed, ?_, ?_⟩
    · rw [cascade.entities]
      decide +kernel
    · rw [cascade.constraints]
      decide +kernel
  · exact (reached.removal_exact "B").2.1 (by decide +kernel)
  · obtain ⟨found, after, performed, _, missing⟩ :=
      (reached.removal_exact "h").2.2.1 (by decide +kernel)
    cases found with
    | true => exact ⟨after, performed⟩
    | false => exact absurd (missing rfl).2 (by decide +kernel)
  · obtain ⟨⟨found, after, log, performed, present, _, unchanged⟩, _⟩ := reached.removal_exact "Z"
    have missing : found = false := by
      rw [← Bool.not_eq_true, present]
      decide +kernel
    cases missing
    rw [unchanged rfl] at performed
    exact ⟨log, performed⟩

end Session

end PlanarSketch
