import PlanarSketch.Freedom
import PlanarSketch.Proofs.Layout.Columns

/-!
# The flat view represents the store

The blocks of the entities come one after the other and use up the slots, so that every slot belongs
to one entity (`Block.flatMap_slots`). Leaving out the blocks of fixed entities leaves the unknowns
in increasing order (`Layout.pairwise_lt_freeSlotsOf`), as many as are counted without the flat view
(`Layout.size_freeSlotsOf`).

What a solve relies on is collected in `Layout.Represents`: the parameters of every entity can be
read off, slots and columns of unknowns go back and forth, the slots of fixed entities have no
column, and a constraint depends on the columns of the entities it names and on no others. The flat
view of a coherent store has all this (`Layout.represents_laid`).
-/

set_option autoImplicit false

namespace PlanarSketch

variable {α : Type}

/-! ## Slots -/

theorem Entity.length_parameters (entity : Entity α) : entity.parameters.length = entity.arity :=
  Shape.length_toList _

/-- **The blocks of entities use up the slots, one after the other.** -/
theorem Block.flatMap_slots (offset : Nat) (entities : List (Entity α)) :
    (Block.ofEntities offset entities).flatMap Block.slots =
      List.range' offset (entities.flatMap Entity.parameters).length := by
  induction entities generalizing offset with
  | nil => rfl
  | cons entity rest ih =>
      rw [Block.ofEntities, List.flatMap_cons, List.flatMap_cons, List.length_append, ih,
        Entity.length_parameters, ← List.range'_append_1]
      rfl

namespace Layout

/-- The unknowns are in increasing order. -/
theorem pairwise_lt_freeSlotsOf (offset : Nat) (entities : List (Entity α)) :
    (freeSlotsOf (Block.ofEntities offset entities)).toList.Pairwise (· < ·) := by
  have all : ((Block.ofEntities offset entities).flatMap Block.slots).Pairwise (· < ·) := by
    rw [Block.flatMap_slots]
    exact List.pairwise_lt_range'
  exact all.sublist (List.filter_sublist.flatMap Block.slots)

/-- There are as many unknowns as parameters of entities that are not fixed. -/
theorem size_freeSlotsOf (offset : Nat) (store : Store α) :
    (freeSlotsOf (Block.ofEntities offset store.entities)).size = store.freeParameters := by
  rw [freeSlotsOf, Store.freeParameters, List.size_toArray]
  generalize store.entities = entities
  induction entities generalizing offset with
  | nil => rfl
  | cons entity rest ih =>
      have later := ih (offset + entity.arity)
      cases fixed : entity.fixed with
      | true => simpa [Block.ofEntities, fixed] using later
      | false => simpa [Block.ofEntities, fixed, Block.slots, Entity.arity] using later

theorem nodup_distinct (list : List Nat) : (distinct list).Nodup := by
  induction list with
  | nil => exact List.nodup_nil
  | cons first rest ih =>
      refine List.nodup_cons.mpr ⟨?_, ih.filter _⟩
      simp

end Layout

variable [Scalar α]

/-- A flat view that represents a store. -/
structure Layout.Represents (layout : Layout α) (store : Store α) : Prop where
  /-- The blocks are those of the entities, in the order of the store. -/
  blocks : (layout.blocks.map fun block => (block.name, block.kind, block.fixed)) =
    store.entities.map fun entity => (entity.name, entity.kind, entity.fixed)
  /-- One after the other they use up the slots of all parameters. -/
  slots : layout.blocks.flatMap Block.slots = List.range store.parameters.length
  apart : layout.blocks.Pairwise fun first second => first.slots.Disjoint second.slots
  /-- Every entity has its parameters in its block. -/
  parameters : ∀ entity ∈ store.entities,
    layout.parametersOf? store.parameters.toArray entity.name = some entity.parameters
  increasing : layout.freeSlots.toList.Pairwise (· < ·)
  free : ∀ slot, slot ∈ layout.freeSlots ↔
    ∃ block ∈ layout.blocks, block.fixed = false ∧ slot ∈ block.slots
  /-- The column of the slot of a column is that column. -/
  column : ∀ column, layout.columnOf (layout.slotAt column) = some column
  pinned : ∀ slot < store.parameters.length, layout.columnOf slot = none ↔
    ∃ block ∈ layout.blocks, block.fixed = true ∧ slot ∈ block.slots
  unknowns : (layout.unknowns : Int) = store.freedom.unknowns
  equations : layout.equations = store.constraints.length
  /-- A constraint depends on the columns of the entities it names, each listed once. -/
  columns : List.Forall₂
    (fun bound constraint => bound.name = constraint.name ∧ bound.columns.Nodup ∧
      ∀ k, k ∈ bound.columns ↔ ∃ column : Fin layout.unknowns, column.val = k ∧
        ∃ block ∈ layout.blocks, block.name ∈ constraint.relation.refs ∧
          layout.slotAt column ∈ block.slots)
    layout.bound.toList store.constraints

namespace Layout

variable {store : Store α}

theorem mem_blocks_laid {block : Block} :
    block ∈ (laid store).blocks ↔ ∃ place ∈ Entity.placed 0 store.entities,
      Entity.block place = block := by
  rw [laid, Entity.ofEntities_eq]
  exact List.mem_map

/-- The slots of fixed entities are those without a column. -/
theorem columnOf_laid_eq_none_iff {slot : Nat} (within : slot < store.parameters.length) :
    (laid store).columnOf slot = none ↔
      ∃ block ∈ (laid store).blocks, block.fixed = true ∧ slot ∈ block.slots := by
  refine Array.finIdxOf?_eq_none_iff.trans ?_
  constructor
  · intro known
    have listed : slot ∈ (laid store).blocks.flatMap Block.slots := by
      rw [laid, Block.flatMap_slots, List.mem_range'_1]
      exact ⟨Nat.zero_le slot, by simpa [Store.parameters] using within⟩
    obtain ⟨block, member, own⟩ := List.mem_flatMap.mp listed
    obtain ⟨place, placed, rfl⟩ := mem_blocks_laid.mp member
    refine ⟨_, member, ?_, own⟩
    cases fixed : place.2.fixed with
    | true => exact fixed
    | false => exact absurd (mem_freeSlotsOf.mpr ⟨place, placed, fixed, own⟩) known
  · rintro ⟨_, member, fixed, own⟩
    obtain ⟨place, placed, rfl⟩ := mem_blocks_laid.mp member
    exact Entity.notMem_freeSlots placed fixed own

/-- A constraint of a coherent store depends on the columns in the blocks of the entities it
names. -/
theorem mem_columns_laid (coherent : store.Coherent) {constraint : Constraint α}
    (listed : constraint ∈ store.constraints) (k : Nat) :
    k ∈ (boundOf (laid store).blocks constraint).columns ↔
      ∃ column : Fin (laid store).unknowns, column.val = k ∧ ∃ block ∈ (laid store).blocks,
        block.name ∈ constraint.relation.refs ∧ (laid store).slotAt column ∈ block.slots := by
  refine (mem_columns store constraint k).trans
    (exists_congr fun column => and_congr_right fun _ => ?_)
  rw [boundOf, Relation.refs_map]
  constructor
  · rintro ⟨_, referred, own⟩
    obtain ⟨name, among, rfl⟩ := List.mem_map.mp referred
    have known := coherent.references constraint listed name among
    rw [Ledger.names, ← Entity.map_snd_placed 0 store.entities, List.map_map] at known
    obtain ⟨place, placed, rfl⟩ := List.mem_map.mp known
    have operand : operandOf (Block.ofEntities 0 store.entities) (Named.name place.2) =
        .ofBlock (Entity.block place) := operandOf_of_placed coherent placed
    rw [Function.comp_apply, operand] at own
    exact ⟨_, mem_blocks_laid.mpr ⟨place, placed, rfl⟩, among, own⟩
  · rintro ⟨_, member, among, own⟩
    obtain ⟨place, placed, rfl⟩ := mem_blocks_laid.mp member
    have operand : operandOf (Block.ofEntities 0 store.entities) (Entity.block place).name =
        .ofBlock (Entity.block place) := operandOf_of_placed coherent placed
    refine ⟨_, List.mem_map_of_mem among, ?_⟩
    rw [operand]
    exact own

/-- **The flat view of a coherent store represents it.** -/
theorem represents_laid (coherent : store.Coherent) : (laid store).Represents store := by
  have injective := slotAt_laid_injective store
  have slots : (laid store).blocks.flatMap Block.slots = List.range store.parameters.length := by
    rw [List.range_eq_range']
    exact Block.flatMap_slots 0 store.entities
  refine ⟨?_, slots, ?_, ?_, pairwise_lt_freeSlotsOf 0 store.entities, ?_, ?_, ?_, ?_, ?_, ?_⟩
  · rw [laid, Entity.ofEntities_eq, List.map_map]
    conv_rhs => rw [← Entity.map_snd_placed 0 store.entities, List.map_map]
    rfl
  · -- A slot in two blocks would be listed twice.
    have once : ((laid store).blocks.flatMap Block.slots).Nodup := by
      rw [slots]
      exact List.nodup_range
    exact (List.nodup_flatMap.mp once).2
  · intro entity member
    rw [← Entity.map_snd_placed 0 store.entities] at member
    obtain ⟨place, placed, rfl⟩ := List.mem_map.mp member
    have own : Entity.readAt store.parameters.toArray place = place.2 :=
      Entity.readAt_own rfl placed
    rw [parametersOf?, laid, Entity.find?_block coherent.entityNames placed]
    exact congrArg (fun entity => some (Entity.parameters entity)) own
  · intro slot
    simp [laid, freeSlotsOf, and_assoc]
  · intro column
    exact (columnOf_eq_some_iff injective).mpr rfl
  · intro slot within
    exact columnOf_laid_eq_none_iff within
  · exact congrArg Int.ofNat (size_freeSlotsOf 0 store)
  · simp [equations, laid]
  · rw [laid, List.toList_toArray]
    refine List.forall₂_map_left_iff.mpr (List.forall₂_same.mpr ?_)
    intro constraint listed
    exact ⟨rfl, nodup_distinct _, mem_columns_laid coherent listed⟩

end Layout

end PlanarSketch
