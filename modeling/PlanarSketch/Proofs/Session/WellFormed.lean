import PlanarSketch.Proofs.Session.Reachable

/-!
# Stores stay well formed

What a store promises its users is said here without the terms of the checks (`Store.WellFormed`):
constraints refer to entities that are there, records have as many parts as their kind says, numbers
are finite where they have to be and tolerances are positive, and each record is found under its own
name, which is not empty and belongs to no other.

A sound store is well formed (`Store.Sound.wellFormed`), and soundness is what operations keep. So
whatever operations are performed, with whatever values and whether they fail or not, the store is
well formed afterwards. It does not matter whether they start from a new session or from a store
that was read from a document (`Session.afterAll_wellFormed`).
-/

set_option autoImplicit false

namespace PlanarSketch

/-- A store that keeps what it promises its users. -/
structure Store.WellFormed (store : Store Float) : Prop where
  references : ∀ constraint ∈ store.constraints, ∀ name ∈ constraint.relation.refs,
    ∃ entity, store.entity? name = some entity
  parameters : ∀ entity ∈ store.entities, entity.parameters.length = entity.kind.arity ∧
    ∀ x ∈ entity.parameters, x.isFinite = true
  arity : ∀ constraint ∈ store.constraints, constraint.relation.refs.length = constraint.kind.arity
  targets : ∀ constraint ∈ store.constraints,
    constraint.kind = .distance ∨ constraint.kind = .angle →
      ∃ x, constraint.value = some x ∧ x.isFinite = true
  tolerances : ∀ constraint ∈ store.constraints, (0.0 : Float) < constraint.tolerance
  entityNames : ∀ entity ∈ store.entities, entity.name.isEmpty = false ∧
    store.entity? entity.name = some entity
  constraintNames : ∀ constraint ∈ store.constraints, constraint.name.isEmpty = false ∧
    store.constraint? constraint.name = some constraint
  entitiesOnce : (store.entities.map Entity.name).Nodup
  constraintsOnce : (store.constraints.map Constraint.name).Nodup

/-- Distances and angles are the relations that need a value. -/
theorem RelationKind.needsValue_of_measured {kind : RelationKind}
    (measured : kind = .distance ∨ kind = .angle) : kind.needsValue = true := by
  rcases measured with rfl | rfl <;> rfl

/-- **A sound store is well formed.** -/
theorem Store.Sound.wellFormed {store : Store Float} (sound : store.Sound) : store.WellFormed where
  references := fun constraint member name referred =>
    Ledger.find?_of_mem_names (sound.references constraint member name referred)
  parameters := fun entity member =>
    ⟨Shape.length_toList _, fun x own =>
      List.all_eq_true.mp (sound.entities entity member).finite x own⟩
  arity := fun _ _ => Relation.length_refs _
  targets := by
    intro constraint member measured
    have checked := sound.constraints constraint member
    obtain ⟨x, given⟩ :=
      Option.isSome_iff_exists.mp (checked.value (RelationKind.needsValue_of_measured measured))
    exact ⟨x, given, checked.finite x given⟩
  tolerances := fun constraint member => (sound.constraints constraint member).tolerance
  entityNames := fun entity member =>
    ⟨(sound.entities entity member).name, Ledger.find?_of_mem sound.entityNames member⟩
  constraintNames := fun constraint member =>
    ⟨(sound.constraints constraint member).name, Ledger.find?_of_mem sound.constraintNames member⟩
  entitiesOnce := sound.entityNames
  constraintsOnce := sound.constraintNames

theorem Store.sound_ofText {text : Text} {store : Store Float}
    (read : Store.ofText text = .ok store) :
    store.Sound := by
  unfold Store.ofText at read
  split at read
  · exact Store.sound_ofJson read
  · cases read

namespace Session

/-- Operations keep a session proper, one after the other. -/
theorem Proper.afterAll {session : Session} (proper : session.Proper)
    (operations : List Operation) :
    (Session.afterAll operations session).Proper := by
  induction operations generalizing session with
  | nil => exact proper
  | cons operation rest ih => exact ih (operation.keeps session proper).1

/-- **Stores stay well formed.** Whatever is done to a new session, or to a store read from a
document or a text under a configuration that was checked, the store is well formed afterwards. -/
theorem afterAll_wellFormed (operations : List Operation) :
    (afterAll operations {}).sketch.store.WellFormed ∧
    (∀ (document : Json) (store : Store Float), Store.ofJson document = .ok store →
      ∀ session : Session, session.sketch.config.Settled →
        (afterAll operations
          { session with sketch := { session.sketch with store } }).sketch.store.WellFormed) ∧
    ∀ (text : Text) (store : Store Float), Store.ofText text = .ok store →
      ∀ session : Session, session.sketch.config.Settled →
        (afterAll operations
          { session with sketch := { session.sketch with store } }).sketch.store.WellFormed := by
  have stays (store : Store Float) (sound : store.Sound) (session : Session)
      (settled : session.sketch.config.Settled) :
      (afterAll operations
        { session with sketch := { session.sketch with store } }).sketch.store.WellFormed := by
    have proper : Proper { session with sketch := { session.sketch with store } } :=
      ⟨sound, settled⟩
    exact (proper.afterAll operations).sound.wellFormed
  refine ⟨?_, ?_, ?_⟩
  · exact stays {} Store.sound_empty {} Config.settled_default
  · intro document store read
    exact stays store (Store.sound_ofJson read)
  · intro text store read
    exact stays store (Store.sound_ofText read)

/-- Two points at a distance, read from the value of their document: the second point is replaced by
a line under its name, the sketch is solved, and the first point is taken out. And in a store read
from a text a constraint on something that is not there is refused, the point is taken out, and
another one is added. -/
theorem replaced_twoPoints_wellFormed :
    let saved := (twoPoints (.obj []) 0.75).sketch.store.toJson
    let text : Text :=
      "\x7b\"entities\": [\x7b\"id\": \"P\", \"type\": \"point\", \"parameters\": [0, 1]\x7d]\x7d"
    (∃ store, Store.ofJson saved = .ok store ∧
      (afterAll [
        .addShape .line [.float 1.0, .float 0.0, .float 2.0, .float 3.0] (.bool false) (.str "B"),
        .solve none fun _ => false,
        .removeEntity (.str "A")] { sketch := { store } }).sketch.store.WellFormed) ∧
    ∃ store, Store.ofText text = .ok store ∧
      (afterAll [
        .constrain .horizontal [.str "Q"] .null Constraint.defaultTolerance (.str "Q"),
        .remove (.str "P"),
        .addShape .point [.int 1, .int 2] (.bool true) (.str "Q")]
        { sketch := { store } }).sketch.store.WellFormed := by
  intro saved text
  have fromValue : (Store.ofJson saved).isOk = true := by decide +kernel
  have fromText : (Store.ofText text).isOk = true := by decide +kernel
  constructor
  · cases read : Store.ofJson saved with
    | error error =>
        rw [read] at fromValue
        cases fromValue
    | ok store =>
        exact ⟨store, rfl, (afterAll_wellFormed _).2.1 _ store read {} Config.settled_default⟩
  · cases read : Store.ofText text with
    | error error =>
        rw [read] at fromText
        cases fromText
    | ok store =>
        exact ⟨store, rfl, (afterAll_wellFormed _).2.2 _ store read {} Config.settled_default⟩

end Session

end PlanarSketch
