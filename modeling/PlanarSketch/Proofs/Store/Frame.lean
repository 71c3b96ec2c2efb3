import Mathlib.Data.List.Forall2
import PlanarSketch.Layout

/-!
# What a solve leaves alone

A solve may give entities that are not fixed new parameters, and note in constraints whether they
are satisfied. Everything else about a store it leaves alone: names, kinds, order, which entities
are fixed, all of a fixed entity, and all other fields of a constraint (`Store.Framed`).

Stores that agree in this way have the same flat view apart from the values
(`Layout.ofStore_of_framed`).
-/

set_option autoImplicit false

namespace PlanarSketch

variable {α : Type}

/-- An entity after a solve: its parameters may differ, and not even those when it is fixed. -/
structure Entity.Framed (before after : Entity α) : Prop where
  name : after.name = before.name
  kind : after.kind = before.kind
  fixed : after.fixed = before.fixed
  pinned : before.fixed = true → after = before

/-- A constraint after a solve: only the note whether it is satisfied may differ. -/
def Constraint.Framed (before after : Constraint α) : Prop :=
  after = { before with satisfied := after.satisfied }

/-- A store after a solve: its entities and its constraints correspond one by one. -/
structure Store.Framed (before after : Store α) : Prop where
  entities : List.Forall₂ Entity.Framed before.entities after.entities
  constraints : List.Forall₂ Constraint.Framed before.constraints after.constraints

/-! ## Frames compose -/

theorem Entity.Framed.refl (entity : Entity α) : entity.Framed entity :=
  ⟨rfl, rfl, rfl, fun _ => rfl⟩

/-- A new shape of the same kind for an entity that is not fixed is within the frame. -/
theorem Entity.Framed.reshape {entity : Entity α} {shape : Shape α} (free : entity.fixed = false)
    (kind : shape.kind = entity.kind) : entity.Framed { entity with shape } where
  name := rfl
  kind := kind
  fixed := rfl
  pinned := by
    intro fixed
    rw [free] at fixed
    cases fixed

theorem Constraint.Framed.refl (constraint : Constraint α) : constraint.Framed constraint := rfl

theorem Store.Framed.refl (store : Store α) : store.Framed store where
  entities := List.forall₂_same.mpr fun entity _ => .refl entity
  constraints := List.forall₂_same.mpr fun constraint _ => .refl constraint

theorem Store.Framed.ofEntities {store : Store α} {entities : List (Entity α)}
    (framed : List.Forall₂ Entity.Framed store.entities entities) :
    store.Framed { store with entities } where
  entities := framed
  constraints := List.forall₂_same.mpr fun constraint _ => .refl constraint

/-! ## The flat view of a frame -/

/-- Records that correspond one by one have the same names when corresponding ones do. -/
theorem Ledger.names_of_forall₂ {β : Type} [Named β] {related : β → β → Prop}
    (named : ∀ before after, related before after → Named.name after = Named.name before)
    {before after : List β} (framed : List.Forall₂ related before after) :
    Ledger.names after = Ledger.names before := by
  induction framed with
  | nil => rfl
  | cons first _ ih => exact congrArg₂ List.cons (named _ _ first) ih

/-- Each record after corresponds to one before. -/
theorem Ledger.exists_of_forall₂ {β : Type} {related : β → β → Prop} {before after : List β}
    (framed : List.Forall₂ related before after) {record : β} (member : record ∈ after) :
    ∃ old ∈ before, related old record := by
  induction framed with
  | nil => cases member
  | cons first _ ih =>
      rcases List.mem_cons.mp member with rfl | later
      · exact ⟨_, List.mem_cons_self, first⟩
      · obtain ⟨old, present, same⟩ := ih later
        exact ⟨old, List.mem_cons_of_mem _ present, same⟩

theorem Store.Framed.entityNames {before after : Store α} (framed : before.Framed after) :
    Ledger.names after.entities = Ledger.names before.entities :=
  Ledger.names_of_forall₂ (fun _ _ same => same.name) framed.entities

theorem Store.Framed.constraintNames {before after : Store α} (framed : before.Framed after) :
    Ledger.names after.constraints = Ledger.names before.constraints := by
  refine Ledger.names_of_forall₂ ?_ framed.constraints
  intro old new same
  rw [show new = { old with satisfied := new.satisfied } from same]
  rfl

theorem Block.ofEntities_of_framed {before after : List (Entity α)}
    (framed : List.Forall₂ Entity.Framed before after) (offset : Nat) :
    Block.ofEntities offset after = Block.ofEntities offset before := by
  induction framed generalizing offset with
  | nil => rfl
  | cons first _ ih =>
      rw [Block.ofEntities, Block.ofEntities, ih, Entity.arity, Entity.arity, first.name,
        first.kind, first.fixed]

variable [Scalar α]

theorem Layout.bind_of_framed (blocks : List Block) {before after : List (Constraint α)}
    (framed : List.Forall₂ Constraint.Framed before after) :
    after.mapM (Layout.bind blocks) = before.mapM (Layout.bind blocks) := by
  induction framed with
  | nil => rfl
  | @cons before after _ _ first _ ih =>
      have same : Layout.bind blocks after = Layout.bind blocks before := by
        rw [show after = { before with satisfied := after.satisfied } from first]
        rfl
      rw [List.mapM_cons, List.mapM_cons, same, ih]

/-- **A store and its frame have the same flat view.** -/
theorem Layout.ofStore_of_framed {before after : Store α} (framed : before.Framed after) :
    Layout.ofStore after = Layout.ofStore before := by
  rw [Layout.ofStore, Layout.ofStore, Block.ofEntities_of_framed framed.entities,
    Layout.bind_of_framed _ framed.constraints]

end PlanarSketch
