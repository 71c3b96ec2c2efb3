import Mathlib
import PlanarSketch.Proofs.Exact.Renumbering

/-!
# The flat views of rearranged stores

The flat views of two stores with the same records in another order are renumberings of one another
(`Store.Rearranged.exists_renumbering`): each parameter of an entity moves from its slot in the one
to its slot in the other, and with it the column of an unknown; an equation moves with the name of
its constraint.
-/

set_option autoImplicit false

namespace PlanarSketch

/-! ## Correspondences of positions -/

/-- A correspondence of positions, moved up by a first position that stays. -/
def behindFirst (position : Equiv.Perm ℕ) : Equiv.Perm ℕ where
  toFun
    | 0 => 0
    | s + 1 => position s + 1
  invFun
    | 0 => 0
    | s + 1 => position.symm s + 1
  left_inv := by rintro (_ | s) <;> simp
  right_inv := by rintro (_ | s) <;> simp

/-- Lists that are the same up to order correspond position by position. -/
theorem exists_positions {β : Type} {first second : List β} (perm : first.Perm second) :
    ∃ position : Equiv.Perm ℕ, ∀ s : ℕ, second[position s]? = first[s]? := by
  induction perm with
  | nil => exact ⟨Equiv.refl ℕ, fun _ => rfl⟩
  | cons x _ ih =>
      obtain ⟨position, same⟩ := ih
      refine ⟨behindFirst position, ?_⟩
      rintro (_ | s)
      · rfl
      · exact same s
  | swap x y rest =>
      refine ⟨Equiv.swap 0 1, ?_⟩
      rintro (_ | _ | s)
      · rfl
      · rfl
      · rw [Equiv.swap_apply_of_ne_of_ne (by simp) (by simp)]
        rfl
  | trans _ _ ih ih' =>
      obtain ⟨position, same⟩ := ih
      obtain ⟨position', same'⟩ := ih'
      exact ⟨position.trans position', fun s => (same' _).trans (same s)⟩

/-- Two ways of telling apart indices by the same labels make the indices correspond. -/
theorem exists_equiv_of_labels {ι κ β : Type} {label : ι → β} {label' : κ → β}
    (injective : Function.Injective label) (injective' : Function.Injective label')
    (same : Set.range label = Set.range label') : ∃ e : ι ≃ κ, ∀ i, label' (e i) = label i := by
  refine ⟨(Equiv.ofInjective label injective).trans
    ((Equiv.setCongr same).trans (Equiv.ofInjective label' injective').symm), fun i => ?_⟩
  exact Equiv.apply_ofInjective_symm injective' _

/-! ## Cells -/

namespace Entity

/-- The parameters of an entity, each with the name of the entity and its place in it. -/
def cells (entity : Entity ℝ) : List ((Text × ℕ) × ℝ) :=
  entity.parameters.zipIdx.map fun (x, k) => ((entity.name, k), x)

theorem map_snd_cells (entity : Entity ℝ) : entity.cells.map Prod.snd = entity.parameters := by
  rw [cells, List.map_map]
  exact List.zipIdx_map_fst 0 _

theorem map_fst_cells (entity : Entity ℝ) :
    entity.cells.map Prod.fst = (List.range' 0 entity.arity).map fun k => (entity.name, k) := by
  have counted : (entity.parameters.zipIdx).map Prod.snd = List.range' 0 entity.arity := by
    rw [List.zipIdx_map_snd, parameters, Shape.length_toList]
    rfl
  rw [cells, List.map_map, ← counted, List.map_map]
  rfl

/-- The cells of an entity in the flat view start at its place. -/
theorem getElem?_labels {offset : ℕ} {entities : List (Entity ℝ)} {place : ℕ × Entity ℝ}
    (member : place ∈ placed offset entities) {k : ℕ} (small : k < place.2.arity) :
    ((entities.flatMap cells).map Prod.fst)[place.1 - offset + k]? = some (place.2.name, k) := by
  induction entities generalizing offset with
  | nil => cases member
  | cons entity rest ih =>
      rw [List.flatMap_cons, List.map_append, map_fst_cells]
      rcases List.mem_cons.mp member with rfl | later
      · rw [Nat.sub_self, Nat.zero_add, List.getElem?_append_left (by simpa using small)]
        simp [show k < entity.arity from small]
      · have after := le_of_mem_placed later
        rw [List.getElem?_append_right (by simp; omega), ← ih later]
        congr 1
        simp only [List.length_map, List.length_range']
        omega

end Entity

namespace Store

def cells (store : Store ℝ) : List ((Text × ℕ) × ℝ) := store.entities.flatMap Entity.cells

theorem map_snd_cells (store : Store ℝ) : store.cells.map Prod.snd = store.parameters := by
  rw [cells, List.map_flatMap, parameters]
  simp only [Entity.map_snd_cells]

theorem nodup_labels {store : Store ℝ} (coherent : store.Coherent) :
    (store.cells.map Prod.fst).Nodup := by
  rw [cells, List.map_flatMap, List.nodup_flatMap]
  refine ⟨?_, ?_⟩
  · intro entity _
    rw [Entity.map_fst_cells]
    exact List.Nodup.map (fun _ _ same => (Prod.mk.inj same).2) List.nodup_range'
  · refine (List.pairwise_map.mp coherent.entityNames).imp ?_
    intro first second different label own shared
    simp only [Entity.map_fst_cells] at own shared
    obtain ⟨_, _, rfl⟩ := List.mem_map.mp own
    obtain ⟨_, _, same⟩ := List.mem_map.mp shared
    exact different (Prod.mk.inj same).1.symm

variable {first second : Store ℝ}

/-- A renumbering of slots takes each parameter from its slot in one store to its slot in the
other. -/
structure Slotted (first second : Store ℝ) (slot : Equiv.Perm ℕ) : Prop where
  carried : Carried slot first.parameters.toArray second.parameters.toArray
  moved : ∀ place ∈ Entity.placed 0 first.entities, ∀ place' ∈ Entity.placed 0 second.entities,
    place'.2 = place.2 →
      Operand.Moved slot (.ofBlock (Entity.block place)) (.ofBlock (Entity.block place'))

theorem Rearranged.exists_slotted (rearranged : first.Rearranged second) (coherent : first.Coherent)
    (coherent' : second.Coherent) : ∃ slot, Slotted first second slot := by
  have perm : first.entities.Perm second.entities :=
    (List.perm_ext_iff_of_nodup coherent.entityNames.of_map coherent'.entityNames.of_map).mpr
      (rearranged.mem_entities coherent coherent')
  obtain ⟨slot, same⟩ :=
    exists_positions (show first.cells.Perm second.cells from perm.flatMap_right _)
  refine ⟨slot, ?_, ?_⟩
  · intro s
    simp only [List.getElem?_toArray, ← map_snd_cells, List.getElem?_map, same]
  · intro place member place' member' entity
    refine ⟨by simp [Operand.ofBlock, Entity.block, entity], ?_⟩
    intro k small
    have label := Entity.getElem?_labels member small
    have label' := Entity.getElem?_labels member' (k := k) (by rw [entity]; exact small)
    rw [Nat.sub_zero] at label label'
    have moved : (second.cells.map Prod.fst)[slot (place.1 + k)]? = some (place.2.name, k) := by
      rw [← label, List.getElem?_map, same, ← List.getElem?_map]
      rfl
    have within : slot (place.1 + k) < (second.cells.map Prod.fst).length :=
      (List.getElem?_eq_some_iff.mp moved).1
    refine (List.getElem?_inj within (nodup_labels coherent')).mp (moved.trans ?_)
    rw [← entity]
    exact label'.symm

/-! ## The renumbering -/

theorem exists_placed {store : Store ℝ} {entity : Entity ℝ} (listed : entity ∈ store.entities) :
    ∃ place ∈ Entity.placed 0 store.entities, place.2 = entity := by
  rw [← Entity.map_snd_placed 0 store.entities] at listed
  exact List.mem_map.mp listed

theorem mem_of_placed {store : Store ℝ} {place : ℕ × Entity ℝ}
    (member : place ∈ Entity.placed 0 store.entities) : place.2 ∈ store.entities := by
  rw [← Entity.map_snd_placed 0 store.entities]
  exact List.mem_map_of_mem member

variable {slot : Equiv.Perm ℕ}

/-- The slots of unknowns of one store are those of the other renumbered. -/
theorem Slotted.mem_freeSlots (slotted : Slotted first second slot)
    (same : ∀ entity, entity ∈ first.entities ↔ entity ∈ second.entities) (s : ℕ) :
    slot s ∈ (Layout.laid second).freeSlots ↔ s ∈ (Layout.laid first).freeSlots := by
  refine Layout.mem_freeSlotsOf.trans (Iff.trans ?_ Layout.mem_freeSlotsOf.symm)
  constructor
  · rintro ⟨place', member', loose, own⟩
    obtain ⟨place, member, entity⟩ := exists_placed ((same _).mpr (mem_of_placed member'))
    exact ⟨place, member, entity ▸ loose,
      ((slotted.moved place member place' member' entity.symm).mem_slots s).mp own⟩
  · rintro ⟨place, member, loose, own⟩
    obtain ⟨place', member', entity⟩ := exists_placed ((same _).mp (mem_of_placed member))
    exact ⟨place', member', entity ▸ loose,
      ((slotted.moved place member place' member' entity).mem_slots s).mpr own⟩

/-- Constraints of one name are bound to places that move into one another. -/
theorem Slotted.matches (slotted : Slotted first second slot)
    (rearranged : first.Rearranged second) (coherent : first.Coherent)
    (coherent' : second.Coherent) {constraint constraint' : Constraint ℝ}
    (member : constraint ∈ first.constraints) (alike : constraint.Alike constraint') :
    (Layout.boundOf (Block.ofEntities 0 first.entities) constraint).relation.Matches slot
      (Layout.boundOf (Block.ofEntities 0 second.entities) constraint').relation := by
  refine ⟨constraint.relation.map fun name =>
    (Layout.operandOf (Block.ofEntities 0 first.entities) name,
    Layout.operandOf (Block.ofEntities 0 second.entities) name), ?_, ?_, ?_⟩
  · intro pair referred
    rw [Relation.refs_map] at referred
    obtain ⟨name, named, rfl⟩ := List.mem_map.mp referred
    obtain ⟨entity, listed, rfl⟩ :=
      List.mem_map.mp (coherent.references constraint member name named)
    obtain ⟨place, placed, rfl⟩ := exists_placed listed
    obtain ⟨place', placed', same⟩ :=
      exists_placed ((rearranged.mem_entities coherent coherent' _).mp listed)
    have operand' := Layout.operandOf_of_placed coherent' placed'
    rw [same] at operand'
    have operand := Layout.operandOf_of_placed coherent placed
    have moved := slotted.moved place placed place' placed' same
    rw [← operand, ← operand'] at moved
    exact moved
  · rw [Relation.map_map]
    rfl
  · rw [Relation.map_map]
    rcases alike with rfl | rfl
    · exact .inl rfl
    · exact .inr (Relation.map_swap _ _)

theorem Slotted.renumbered (slotted : Slotted first second slot)
    (rearranged : first.Rearranged second) (coherent : first.Coherent) (coherent' : second.Coherent)
    {column : Fin (Layout.laid first).unknowns ≃ Fin (Layout.laid second).unknowns}
    (slots : ∀ c, (Layout.laid second).slotAt (column c) = slot ((Layout.laid first).slotAt c))
    {constraint constraint' : Constraint ℝ}
    (member : constraint ∈ first.constraints) (alike : constraint.Alike constraint') :
    (Layout.boundOf (Block.ofEntities 0 first.entities) constraint).Renumbered slot column
      (Layout.boundOf (Block.ofEntities 0 second.entities) constraint') := by
  have matching := slotted.matches rearranged coherent coherent' member alike
  refine ⟨matching, alike.target, ?_, ?_⟩
  · intro k listed
    obtain ⟨c, rfl, _⟩ := (Layout.mem_columns first constraint k).mp listed
    exact c.isLt
  · intro k
    rw [Layout.mem_columns second]
    constructor
    · rintro ⟨c, rfl, found⟩
      obtain ⟨c, rfl⟩ := column.surjective c
      rw [slots] at found
      exact ⟨c, (Layout.mem_columns first _ _).mpr ⟨c, rfl, (matching.mem_slots _).mp found⟩, rfl⟩
    · rintro ⟨c, listed, rfl⟩
      obtain ⟨d, same, found⟩ := (Layout.mem_columns first _ _).mp listed
      obtain rfl := Fin.ext same
      refine ⟨column d, rfl, ?_⟩
      rw [slots]
      exact (matching.mem_slots _).mpr found

/-- **The flat views of rearranged stores are renumberings of one another.** -/
theorem Slotted.exists_renumbering (slotted : Slotted first second slot)
    (rearranged : first.Rearranged second) (coherent : first.Coherent)
    (coherent' : second.Coherent) :
    ∃ renumbering : (Layout.laid first).Renumbering (Layout.laid second),
      renumbering.slot = slot := by
  have distinct := Layout.slotAt_laid_injective first
  have distinct' := Layout.slotAt_laid_injective second
  obtain ⟨column, slots⟩ :
      ∃ column : Fin (Layout.laid first).unknowns ≃ Fin (Layout.laid second).unknowns,
      ∀ c, (Layout.laid second).slotAt (column c) = slot ((Layout.laid first).slotAt c) := by
    refine exists_equiv_of_labels (slot.injective.comp distinct) distinct' (Set.ext fun s => ?_)
    obtain ⟨s, rfl⟩ := slot.surjective s
    simp only [Set.mem_range, slot.injective.eq_iff]
    rw [Layout.mem_range_slotAt, Layout.mem_range_slotAt,
      slotted.mem_freeSlots (rearranged.mem_entities coherent coherent')]
  obtain ⟨equation, names⟩ := exists_equiv_of_labels (Layout.name_boundAt_injective coherent)
    (Layout.name_boundAt_injective coherent') (Set.ext fun name => by
      rw [Set.mem_range, Set.mem_range, Layout.range_name_boundAt, Layout.range_name_boundAt,
        rearranged.mem_constraintNames])
  refine ⟨⟨slot, column, equation, distinct, slots, ?_⟩, rfl⟩
  intro i
  obtain ⟨constraint, here, bound⟩ := Layout.getElem?_constraints first i
  obtain ⟨constraint', here', bound'⟩ := Layout.getElem?_constraints second (equation i)
  have member := List.mem_of_getElem? here
  have name := names i
  rw [bound, bound'] at name ⊢
  exact slotted.renumbered rearranged coherent coherent' slots member
    (rearranged.alike coherent coherent' member (List.mem_of_getElem? here') name)

end Store

end PlanarSketch
