import Mathlib
import PlanarSketch.Proofs.Checked
import PlanarSketch.Proofs.Layout.Placement
import PlanarSketch.Proofs.Store.Coherent

/-!
# Columns, slots and equations

A column stands for the slot of an unknown (`Layout.slotAt`), and no two columns for one slot. The
slots that have a column are those of the entities that are not fixed (`Layout.mem_freeSlotsOf`).

A coherent store has a flat view, and it can be written down: the operands of a constraint are the
places of the entities it names (`Layout.ofStore_of_coherent`). The columns a constraint can depend
on are those whose slots belong to its operands (`Layout.mem_columns`).
-/

set_option autoImplicit false

namespace PlanarSketch

variable {α : Type}

/-- References that resolve one by one are resolved together. -/
theorem Relation.resolve_eq_map {ρ σ ε : Type} {find : ρ → Except ε σ} {found : ρ → σ}
    {relation : Relation ρ} (each : ∀ name ∈ relation.refs, find name = .ok (found name)) :
    relation.resolve find = .ok (relation.map found) := by
  cases relation <;> simp only [refs, List.forall_mem_cons] at each
    <;> simp only [resolve, each] <;> rfl

namespace Layout

/-! ## Slots of unknowns -/

theorem mem_freeSlotsOf {offset slot : Nat} {entities : List (Entity α)} :
    slot ∈ freeSlotsOf (Block.ofEntities offset entities) ↔
      ∃ place ∈ Entity.placed offset entities, place.2.fixed = false ∧
        slot ∈ (Entity.block place).slots := by
  rw [freeSlotsOf, Entity.ofEntities_eq, List.mem_toArray, List.mem_flatMap]
  constructor
  · rintro ⟨block, among, own⟩
    obtain ⟨listed, loose⟩ := List.mem_filter.mp among
    obtain ⟨place, member, rfl⟩ := List.mem_map.mp listed
    exact ⟨place, member, by simpa [Entity.block] using loose, own⟩
  · rintro ⟨place, member, loose, own⟩
    refine ⟨Entity.block place, List.mem_filter.mpr ⟨List.mem_map_of_mem member, ?_⟩, own⟩
    simpa [Entity.block] using loose

/-- No slot is listed twice. -/
theorem nodup_freeSlotsOf (offset : Nat) (entities : List (Entity α)) :
    (freeSlotsOf (Block.ofEntities offset entities)).toList.Nodup := by
  rw [freeSlotsOf, List.nodup_flatMap]
  refine ⟨fun block _ => List.nodup_range', ?_⟩
  refine List.Pairwise.filter _ ?_
  induction entities generalizing offset with
  | nil => exact List.Pairwise.nil
  | cons entity rest ih =>
      refine List.Pairwise.cons ?_ (ih _)
      intro block later slot own shared
      rw [Entity.ofEntities_eq] at later
      obtain ⟨place, member, rfl⟩ := List.mem_map.mp later
      have after := Entity.le_of_mem_placed member
      simp only [Block.slots, List.mem_range'_1, Entity.block] at own shared
      rw [Entity.arity] at after
      omega

/-! ## Columns -/

/-- The slot of a column. -/
def slotAt (layout : Layout α) : Fin layout.unknowns → Nat :=
  fun (column : Fin layout.freeSlots.size) => layout.freeSlots[column]

theorem getD_freeSlots (layout : Layout α) (column : Fin layout.unknowns) :
    layout.freeSlots.getD column.val 0 = layout.slotAt column := by
  have within : column.val < layout.freeSlots.size := column.isLt
  rw [Array.getD, dif_pos within]
  rfl

theorem mem_range_slotAt (layout : Layout α) (slot : Nat) :
    (∃ column, layout.slotAt column = slot) ↔ slot ∈ layout.freeSlots := by
  rw [Array.mem_iff_getElem]
  exact ⟨fun ⟨column, here⟩ => ⟨column.val, column.isLt, here⟩, fun ⟨k, small, here⟩ =>
    ⟨⟨k, small⟩, here⟩⟩

theorem slotAt_injective {layout : Layout α} (distinct : layout.freeSlots.toList.Nodup) :
    Function.Injective layout.slotAt := by
  intro first second same
  exact Fin.ext ((List.Nodup.getElem_inj_iff distinct).mp same)

theorem columnOf_eq_some_iff {layout : Layout α} (distinct : Function.Injective layout.slotAt)
    {slot : Nat} {column : Fin layout.unknowns} :
    layout.columnOf slot = some column ↔ layout.slotAt column = slot := by
  refine Array.finIdxOf?_eq_some_iff.trans ⟨And.left, fun here => ⟨here, ?_⟩⟩
  intro earlier before same
  exact absurd (distinct (show layout.slotAt earlier = layout.slotAt column from
    same.trans here.symm))
    (Fin.ne_of_lt before)

/-! ## Equations -/

/-- The constraint of an equation. -/
def boundAt (layout : Layout α) : Fin layout.equations → Bound α :=
  fun equation => layout.bound[(equation : Fin layout.bound.size)]

theorem mem_distinct {x : Nat} {list : List Nat} : x ∈ distinct list ↔ x ∈ list := by
  induction list with
  | nil => rfl
  | cons first rest ih =>
      rw [distinct, List.mem_cons, List.mem_cons, List.mem_filter, ih]
      by_cases here : x = first <;> simp [here]

variable [Scalar α]

theorem get_residuals {layout : Layout α} (values : Array α) (equation : Fin layout.equations) :
    (layout.residuals values).get equation = (layout.boundAt equation).residual values :=
  Array.getElem_map _ _

/-- The place that a name stands for; one for which there is none is not asked for. -/
def operandOf (blocks : List Block) (name : Text) : Operand :=
  match Ledger.find? name blocks with
  | some block => .ofBlock block
  | none => ⟨.point, 0⟩

/-- A constraint bound to the places of the entities it names. -/
def boundOf (blocks : List Block) (constraint : Constraint α) : Bound α :=
  { name := constraint.name
    relation := constraint.relation.map (operandOf blocks)
    target := constraint.target
    tolerance := constraint.tolerance
    columns :=
      distinct (((constraint.relation.map (operandOf blocks)).refs.flatMap Operand.slots).filterMap
      (freeSlotsOf blocks).idxOf?) }

/-- The flat view of a coherent store. -/
def laid (store : Store α) : Layout α :=
  let blocks := Block.ofEntities 0 store.entities
  { blocks, freeSlots := freeSlotsOf blocks,
    bound := (store.constraints.map (boundOf blocks)).toArray }

/-- **A coherent store has a flat view.** -/
theorem ofStore_of_coherent {store : Store α} (coherent : store.Coherent) :
    ofStore store = .ok (laid store) := by
  have bindings : ∀ constraint ∈ store.constraints,
      bind (Block.ofEntities 0 store.entities) constraint =
        .ok (boundOf (Block.ofEntities 0 store.entities) constraint) := by
    intro constraint member
    rw [bind, @Relation.resolve_eq_map _ _ _ _ (operandOf (Block.ofEntities 0 store.entities)) _ ?_]
    · rfl
    · intro name referred
      have known := coherent.references constraint member name referred
      rw [← Entity.names_ofEntities 0] at known
      obtain ⟨block, found⟩ := Ledger.find?_of_mem_names known
      rw [operandOf, found]
  rw [ofStore, mapM_eq_map bindings]
  rfl

/-- An equation comes from the constraint in its position. -/
theorem getElem?_constraints (store : Store α) (equation : Fin (laid store).equations) :
    ∃ constraint, store.constraints[equation.val]? = some constraint ∧
      (laid store).boundAt equation = boundOf (Block.ofEntities 0 store.entities) constraint := by
  have bounded :
      equation.val < (store.constraints.map (boundOf (Block.ofEntities 0 store.entities))).length :=
    equation.isLt
  have within : equation.val < store.constraints.length := by simpa using bounded
  exact ⟨store.constraints[equation.val], List.getElem?_eq_getElem within, List.getElem_map _⟩

theorem names_getElem? (store : Store α) (equation : Fin (laid store).equations) :
    (Ledger.names store.constraints)[equation.val]? =
      some ((laid store).boundAt equation).name := by
  obtain ⟨constraint, here, same⟩ := getElem?_constraints store equation
  rw [Ledger.names, List.getElem?_map, here, same]
  rfl

/-- Equations are told apart by the names of their constraints. -/
theorem name_boundAt_injective {store : Store α} (coherent : store.Coherent) :
    Function.Injective fun equation => ((laid store).boundAt equation).name := by
  intro first second same
  have here := names_getElem? store first
  refine Fin.ext ((List.getElem?_inj (List.getElem?_eq_some_iff.mp here).1
    coherent.constraintNames).mp ?_)
  rw [here, names_getElem? store second]
  exact congrArg some same

theorem range_name_boundAt (store : Store α) (name : Text) :
    (∃ equation, ((laid store).boundAt equation).name = name) ↔
      name ∈ Ledger.names store.constraints := by
  constructor
  · rintro ⟨equation, rfl⟩
    exact List.mem_of_getElem? (names_getElem? store equation)
  · intro listed
    obtain ⟨k, small, here⟩ := List.mem_iff_getElem.mp listed
    have within : k < (laid store).equations := by
      simpa [equations, laid, Ledger.names] using small
    refine ⟨⟨k, within⟩, Option.some.inj ?_⟩
    rw [← names_getElem? store ⟨k, within⟩, List.getElem?_eq_getElem small, here]

/-- The columns of a store's flat view are for different slots. -/
theorem slotAt_laid_injective (store : Store α) : Function.Injective (laid store).slotAt :=
  slotAt_injective (nodup_freeSlotsOf 0 store.entities)

omit [Scalar α] in
/-- A name stands for the place of the entity of that name. -/
theorem operandOf_of_placed {store : Store α} (coherent : store.Coherent) {place : Nat × Entity α}
    (member : place ∈ Entity.placed 0 store.entities) :
    operandOf (Block.ofEntities 0 store.entities) place.2.name = .ofBlock (Entity.block place) := by
  rw [operandOf, Entity.find?_block coherent.entityNames member]

/-- The columns of a constraint are those whose slots are slots of its operands. -/
theorem mem_columns (store : Store α) (constraint : Constraint α) (k : Nat) :
    k ∈ (boundOf (Block.ofEntities 0 store.entities) constraint).columns ↔
      ∃ column : Fin (laid store).unknowns, column.val = k ∧
        ∃ operand ∈ (boundOf (Block.ofEntities 0 store.entities) constraint).relation.refs,
          (laid store).slotAt column ∈ operand.slots := by
  have injective := slotAt_laid_injective store
  have index (slot : Nat) : (freeSlotsOf (Block.ofEntities 0 store.entities)).idxOf? slot = some k ↔
      ∃ column : Fin (laid store).unknowns, column.val = k ∧ (laid store).slotAt column = slot := by
    rw [Array.idxOf?_eq_map_finIdxOf?_val]
    refine Option.map_eq_some_iff.trans (exists_congr fun column => ?_)
    rw [and_comm]
    exact and_congr_right fun _ => columnOf_eq_some_iff injective
  rw [boundOf, mem_distinct, List.mem_filterMap]
  constructor
  · rintro ⟨slot, own, found⟩
    obtain ⟨operand, referred, within⟩ := List.mem_flatMap.mp own
    obtain ⟨column, rfl, rfl⟩ := (index slot).mp found
    exact ⟨column, rfl, operand, referred, within⟩
  · rintro ⟨column, rfl, operand, referred, within⟩
    exact ⟨_, List.mem_flatMap.mpr ⟨operand, referred, within⟩, (index _).mpr ⟨column, rfl, rfl⟩⟩

end Layout

end PlanarSketch
