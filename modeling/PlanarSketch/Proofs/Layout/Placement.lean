import PlanarSketch.Proofs.Ledger.Distinct
import PlanarSketch.Proofs.Store.Frame

/-!
# Where entities are in the flat view

Laid out one after the other, each entity of a store has its own slots (`Entity.placed`). Slots of
different entities are different, so the slots of a fixed entity are no unknowns
(`Entity.notMem_freeSlots`).

Reading entities off the flat view goes the other way (`Entity.readAt`). Reading them off their own
parameters gives them back, and their parameters are then all there is in the flat view.
-/

set_option autoImplicit false

namespace PlanarSketch

variable {α : Type}

/-- A shape depends only on the parameters of its kind. -/
theorem Shape.ofReader_congr {read other : Nat → α} {kind : ShapeKind}
    (agree : ∀ k < kind.arity, read k = other k) : ofReader read kind = ofReader other kind := by
  cases kind <;> simp only [ShapeKind.arity] at agree <;> simp [ofReader, agree]

namespace Entity

/-- Entities with the first slot of each, the first entity at `offset`. -/
def placed : Nat → List (Entity α) → List (Nat × Entity α)
  | _, [] => []
  | offset, entity :: rest => (offset, entity) :: placed (offset + entity.arity) rest

/-- The block of a placed entity. -/
def block (place : Nat × Entity α) : Block :=
  { name := place.2.name, kind := place.2.kind, offset := place.1, fixed := place.2.fixed }

theorem ofEntities_eq (offset : Nat) (entities : List (Entity α)) :
    Block.ofEntities offset entities = (placed offset entities).map block := by
  induction entities generalizing offset with
  | nil => rfl
  | cons entity rest ih => rw [Block.ofEntities, placed, List.map_cons, ih, block]

theorem names_ofEntities (offset : Nat) (entities : List (Entity α)) :
    Ledger.names (Block.ofEntities offset entities) = Ledger.names entities := by
  induction entities generalizing offset with
  | nil => rfl
  | cons entity rest ih => exact congrArg (List.cons entity.name) (ih _)

theorem map_snd_placed (offset : Nat) (entities : List (Entity α)) :
    (placed offset entities).map Prod.snd = entities := by
  induction entities generalizing offset with
  | nil => rfl
  | cons entity rest ih => rw [placed, List.map_cons, ih]

/-- With distinct names the block of an entity is found under its name. -/
theorem find?_block {offset : Nat} {entities : List (Entity α)}
    (distinct : Ledger.Distinct entities) {place : Nat × Entity α}
    (member : place ∈ placed offset entities) :
    Ledger.find? place.2.name (Block.ofEntities offset entities) = some (block place) := by
  have once : Ledger.Distinct (Block.ofEntities offset entities) := by
    rw [Ledger.Distinct, names_ofEntities]
    exact distinct
  have listed : block place ∈ Block.ofEntities offset entities := by
    rw [ofEntities_eq]
    exact List.mem_map_of_mem member
  exact Ledger.find?_of_mem once listed

/-! ## Slots -/

theorem le_of_mem_placed {offset : Nat} {entities : List (Entity α)} {place : Nat × Entity α}
    (member : place ∈ placed offset entities) : offset ≤ place.1 := by
  induction entities generalizing offset with
  | nil => cases member
  | cons entity rest ih =>
      rcases List.mem_cons.mp member with rfl | later
      · exact Nat.le_refl offset
      · exact Nat.le_trans (Nat.le_add_right _ _) (ih later)

/-- No two placed entities share a slot. -/
theorem eq_of_shared_slot {offset slot : Nat} {entities : List (Entity α)}
    {first second : Nat × Entity α} (memberFirst : first ∈ placed offset entities)
    (memberSecond : second ∈ placed offset entities) (slotFirst : slot ∈ (block first).slots)
    (slotSecond : slot ∈ (block second).slots) :
    first = second := by
  induction entities generalizing offset with
  | nil => cases memberFirst
  | cons entity rest ih =>
      rw [Block.slots, List.mem_range'_1] at slotFirst slotSecond
      rcases List.mem_cons.mp memberFirst with rfl | laterFirst <;>
        rcases List.mem_cons.mp memberSecond with rfl | laterSecond
      · rfl
      · have after := le_of_mem_placed laterSecond
        simp only [block, arity] at slotFirst slotSecond after
        omega
      · have after := le_of_mem_placed laterFirst
        simp only [block, arity] at slotFirst slotSecond after
        omega
      · exact ih laterFirst laterSecond

/-- The slots of a fixed entity are no unknowns. -/
theorem notMem_freeSlots {offset slot : Nat} {entities : List (Entity α)} {place : Nat × Entity α}
    (member : place ∈ placed offset entities) (fixed : place.2.fixed = true)
    (own : slot ∈ (block place).slots) :
    slot ∉ Layout.freeSlotsOf (Block.ofEntities offset entities) := by
  intro free
  rw [ofEntities_eq, Layout.freeSlotsOf, List.mem_toArray] at free
  obtain ⟨other, among, shared⟩ := List.mem_flatMap.mp free
  obtain ⟨listed, loose⟩ := List.mem_filter.mp among
  obtain ⟨holder, placedThere, rfl⟩ := List.mem_map.mp listed
  have same := eq_of_shared_slot member placedThere own shared
  subst same
  simp [block, fixed] at loose

variable [Scalar α]

/-! ## Reading entities -/

/-- An entity with the parameters that given values have at its place. -/
def readAt (values : Array α) (place : Nat × Entity α) : Entity α :=
  { place.2 with shape := (Operand.ofBlock (block place)).shape values }

@[simp] theorem kind_readAt (values : Array α) (place : Nat × Entity α) :
    (readAt values place).kind = place.2.kind := by
  rw [readAt, kind, Operand.shape, Shape.kind_ofReader]
  rfl

/-- The parameters read, one by one. -/
theorem parameters_readAt_eq (values : Array α) (place : Nat × Entity α) :
    (readAt values place).parameters =
      (List.range place.2.arity).map fun k => values.getD (place.1 + k) Scalar.zero := by
  obtain ⟨offset, entity⟩ := place
  rw [readAt, parameters, Operand.shape, arity]
  dsimp only [Operand.ofBlock, block]
  cases entity.kind <;> rfl

/-- The parameters read are those in the entity's slots. -/
theorem parameters_readAt (values : Array α) (place : Nat × Entity α)
    (within : place.1 + place.2.arity ≤ values.size) :
    (readAt values place).parameters = (values.toList.drop place.1).take place.2.arity := by
  rw [parameters_readAt_eq]
  refine List.ext_getElem (by simp; omega) ?_
  intro k small _
  have here : place.1 + k < values.size := by
    rw [List.length_map, List.length_range] at small
    omega
  simp [here]

theorem readAt_of_drop {values : Array α} {place : Nat × Entity α} {rest : List α}
    (own : values.toList.drop place.1 = place.2.parameters ++ rest) :
    readAt values place = place.2 := by
  obtain ⟨offset, name, shape, fixed⟩ := place
  have reads :
      ∀ k, values.getD (offset + k) Scalar.zero = (shape.toList ++ rest).getD k Scalar.zero := by
    intro k
    have at_k := congrArg (fun list => list[k]?) own
    rw [List.getElem?_drop, Array.getElem?_toList] at at_k
    rw [Array.getD_eq_getD_getElem?, List.getD_eq_getElem?_getD, at_k]
    rfl
  rw [readAt, Operand.shape]
  dsimp only [Operand.ofBlock, block, kind]
  simp only [reads]
  cases shape <;> rfl

/-- All entities are read off their own parameters. -/
theorem readAt_own {offset : Nat} {entities : List (Entity α)} {values : Array α}
    {place : Nat × Entity α} (own : values.toList.drop offset = entities.flatMap parameters)
    (member : place ∈ placed offset entities) : readAt values place = place.2 := by
  induction entities generalizing offset with
  | nil => cases member
  | cons entity rest ih =>
      rcases List.mem_cons.mp member with rfl | later
      · exact readAt_of_drop own
      · refine ih ?_ later
        rw [← List.drop_drop, own, List.flatMap_cons, arity, kind, ← Shape.length_toList]
        exact List.drop_left

/-- The parameters of the entities read are the values. -/
theorem flatMap_readAt {offset : Nat} {entities : List (Entity α)} {values : Array α}
    (size : values.size = offset + (entities.flatMap parameters).length) :
    ((placed offset entities).map (readAt values)).flatMap parameters =
      values.toList.drop offset := by
  induction entities generalizing offset with
  | nil =>
      rw [List.drop_eq_nil_of_le (Nat.le_of_eq (by simpa using size))]
      rfl
  | cons entity rest ih =>
      have here : entity.parameters.length = entity.arity := Shape.length_toList _
      rw [List.flatMap_cons, List.length_append, here] at size
      rw [placed, List.map_cons, List.flatMap_cons, ih (by omega),
        parameters_readAt _ _ (by simp; omega), ← List.drop_drop]
      exact List.take_append_drop _ _

/-- Values that agree in an entity's slots give it the same parameters. -/
theorem readAt_congr {values other : Array α} {place : Nat × Entity α}
    (agree : ∀ slot ∈ (block place).slots, values[slot]? = other[slot]?) :
    readAt values place = readAt other place := by
  have same : (Operand.ofBlock (block place)).shape values =
      (Operand.ofBlock (block place)).shape other := by
    refine Shape.ofReader_congr ?_
    intro k small
    rw [Array.getD_eq_getD_getElem?, Array.getD_eq_getD_getElem?, agree]
    rw [Block.slots, List.mem_range'_1]
    exact ⟨Nat.le_add_right _ _, Nat.add_lt_add_left small _⟩
  rw [readAt, readAt, same]

end Entity

end PlanarSketch
