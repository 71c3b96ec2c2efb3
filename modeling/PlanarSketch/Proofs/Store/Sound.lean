import PlanarSketch.Proofs.Layout.Columns
import PlanarSketch.Proofs.Layout.WriteBack

/-!
# Sound stores

A store is sound when its records are, no name is taken twice, and every constraint refers to
entities that are there (`Store.Sound`). The empty store is sound, and so is what filing, removing
and reshaping make of a sound store, and what a document describes. A frame of a sound store is
sound when it brought in no number that is not finite.

A sound store has a flat view (`Layout.ofStore_of_sound`).
-/

set_option autoImplicit false

namespace PlanarSketch

/-- A store of sound records under distinct names, with everything there that is referred to. -/
structure Store.Sound (store : Store Float) : Prop where
  entityNames : Ledger.Distinct store.entities
  constraintNames : Ledger.Distinct store.constraints
  entities : ∀ entity ∈ store.entities, entity.Sound
  constraints : ∀ constraint ∈ store.constraints, constraint.Sound
  references : ∀ constraint ∈ store.constraints, ∀ name ∈ constraint.relation.refs,
    name ∈ Ledger.names store.entities

namespace Store

variable {store : Store Float}

theorem Sound.coherent (sound : store.Sound) : store.Coherent :=
  ⟨sound.entityNames, sound.constraintNames, sound.references⟩

/-- A coherent store of sound records is sound. -/
theorem Coherent.sound (coherent : store.Coherent)
    (entities : ∀ entity ∈ store.entities, entity.Sound)
    (constraints : ∀ constraint ∈ store.constraints, constraint.Sound) : store.Sound :=
  ⟨coherent.entityNames, coherent.constraintNames, entities, constraints, coherent.references⟩

theorem sound_empty : Sound {} := coherent_empty.sound nofun nofun

/-! ## Filing and removing -/

theorem Sound.addEntity (sound : store.Sound) {entity : Entity Float} (let_in : entity.Sound) :
    (store.addEntity entity).Sound := by
  refine (sound.coherent.addEntity entity).sound ?_ sound.constraints
  intro other member
  rcases Ledger.mem_file member with rfl | before
  · exact let_in
  · exact sound.entities other before

theorem Sound.removeEntity (sound : store.Sound) (name : Text) : (store.removeEntity name).Sound :=
  (sound.coherent.removeEntity name).sound
    (fun entity member => sound.entities entity (List.mem_of_mem_filter member))
    (fun constraint member => sound.constraints constraint (List.mem_of_mem_filter member))

theorem Sound.removeConstraint (sound : store.Sound) (name : Text) :
    (store.removeConstraint name).Sound :=
  (sound.coherent.removeConstraint name).sound sound.entities
    (fun constraint member => sound.constraints constraint (List.mem_of_mem_filter member))

theorem Sound.addConstraint (sound : store.Sound) {constraint : Constraint Float}
    {after : Store Float} (let_in : constraint.Sound)
    (filed : store.addConstraint constraint = .ok after) : after.Sound := by
  have coherent := sound.coherent.addConstraint filed
  rw [Store.addConstraint] at filed
  split at filed
  case h_1 _ => cases filed
  case h_2 _ =>
    cases filed
    refine coherent.sound sound.entities ?_
    intro other member
    rcases Ledger.mem_file member with rfl | before
    · exact let_in
    · exact sound.constraints other before

/-! ## Frames -/

/-- A frame of a sound store with finite parameters is sound. -/
theorem Sound.framed (sound : store.Sound) {after : Store Float} (framed : store.Framed after)
    (finite : ∀ entity ∈ after.entities, entity.isFinite = true) : after.Sound := by
  refine ⟨?_, ?_, ?_, ?_, ?_⟩
  · rw [Ledger.Distinct, framed.entityNames]
    exact sound.entityNames
  · rw [Ledger.Distinct, framed.constraintNames]
    exact sound.constraintNames
  · intro entity member
    obtain ⟨old, present, same⟩ := Ledger.exists_of_forall₂ framed.entities member
    refine ⟨?_, finite entity member⟩
    rw [same.name]
    exact (sound.entities old present).name
  · intro constraint member
    obtain ⟨old, present, same⟩ := Ledger.exists_of_forall₂ framed.constraints member
    have was := sound.constraints old present
    rw [show constraint = { old with satisfied := constraint.satisfied } from same]
    exact ⟨was.name, was.value, was.finite, was.tolerance⟩
  · intro constraint member name referred
    obtain ⟨old, present, same⟩ := Ledger.exists_of_forall₂ framed.constraints member
    rw [show constraint = { old with satisfied := constraint.satisfied } from same] at referred
    rw [framed.entityNames]
    exact sound.references old present name referred

theorem Sound.reshape (sound : store.Sound) {name : Text}
    {shape : ShapeKind → Except (Error Float) (Shape Float)}
    (shaped : ∀ kind made, shape kind = .ok made → made.kind = kind ∧
      made.toList.all Scalar.isFinite = true) {taken : Bool} {after : Store Float}
    (reshaped : store.reshape name shape = .ok (taken, after)) :
    after.Sound := by
  rw [Store.reshape] at reshaped
  split at reshaped
  case h_1 _ => cases reshaped
  case h_2 entity found =>
    split at reshaped
    case isTrue _ =>
      cases reshaped
      exact sound
    case isFalse free =>
      obtain ⟨made, given, done⟩ := ok_of_bind reshaped
      cases done
      obtain ⟨kind, finite⟩ := shaped entity.kind made given
      obtain ⟨present, rfl⟩ := Ledger.mem_of_find? found
      obtain ⟨before, later, split⟩ := List.append_of_mem present
      have distinct := sound.entityNames
      have entities := sound.entities
      rw [split] at distinct entities
      refine sound.framed (Store.Framed.ofEntities ?_) ?_
      · rw [split, Ledger.modify_middle _ distinct]
        have unchanged (entities : List (Entity Float)) :
            List.Forall₂ Entity.Framed entities entities :=
          List.forall₂_same.mpr fun entity _ => .refl entity
        exact List.rel_append (unchanged before)
          (.cons (.reshape (Bool.eq_false_iff.mpr free) kind) (unchanged later))
      · intro other member
        dsimp only at member
        rw [split, Ledger.modify_middle _ distinct] at member
        rcases List.mem_append.mp member with early | rest
        · exact (entities other (List.mem_append_left _ early)).finite
        · rcases List.mem_cons.mp rest with rfl | late
          · exact finite
          · exact (entities other (List.mem_append_right _ (List.mem_cons_of_mem _ late))).finite

/-! ## Documents -/

/-- The store that a document describes is sound. -/
theorem sound_ofJson {document : Json} {store : Store Float}
    (read : Store.ofJson document = .ok store) :
    store.Sound := by
  unfold Store.ofJson at read
  split at read
  case h_2 _ => cases read
  case h_1 fields =>
    obtain ⟨entities, _, read⟩ := ok_of_bind read
    obtain ⟨filed, entitiesRead, read⟩ := ok_of_bind read
    obtain ⟨constraints, _, constraintsRead⟩ := ok_of_bind read
    have filedSound : filed.Sound := by
      refine foldlM_keeps Store.Sound ?_ sound_empty entitiesRead
      intro before record after sound step
      obtain ⟨entity, built, done⟩ := ok_of_bind step
      cases done
      exact sound.addEntity (Entity.sound_ofJson built)
    refine foldlM_keeps Store.Sound ?_ filedSound constraintsRead
    intro before record after sound step
    obtain ⟨constraint, built, done⟩ := ok_of_bind step
    exact sound.addConstraint (Constraint.sound_ofJson built) done

end Store

/-- **A sound store has a flat view.** -/
theorem Layout.ofStore_of_sound {store : Store Float} (sound : store.Sound) :
    ∃ layout, Layout.ofStore store = .ok layout :=
  ⟨_, ofStore_of_coherent sound.coherent⟩

end PlanarSketch
