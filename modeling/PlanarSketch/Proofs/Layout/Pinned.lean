import PlanarSketch.Proofs.Checked
import PlanarSketch.Proofs.Layout.Placement
import PlanarSketch.Proofs.Newton.Residual

/-!
# A run changes unknowns only

Applying a correction changes slots of unknowns and keeps the number of slots
(`Layout.agrees_advance`). So the values a run leaves agree with those it starts from in every other
slot (`Newton.run_agrees`), and the fixed entities of a store, read off the values that a run
leaves, are what they were (`Newton.readAt_run_of_fixed`).
-/

set_option autoImplicit false

namespace PlanarSketch

variable {α : Type} [Scalar α]

namespace Layout

/-- Values with the same number of slots that are equal in every slot that is no unknown. -/
structure Agrees (layout : Layout α) (before after : Array α) : Prop where
  size : after.size = before.size
  pinned : ∀ slot, slot ∉ layout.freeSlots → after[slot]? = before[slot]?

theorem agrees_advance {layout : Layout α} {start before : Array α}
    (agrees : layout.Agrees start before) (damping : α) (delta : Vector α layout.unknowns) :
    layout.Agrees start (layout.advance damping delta before) where
  size := by rw [advance, Array.size_mapIdx, agrees.size]
  pinned := by
    intro slot known
    have none : layout.columnOf slot = none := Array.finIdxOf?_eq_none_iff.mpr known
    rw [← agrees.pinned slot known, advance, Array.getElem?_mapIdx]
    cases before[slot]? with
    | none => rfl
    | some value => simp [none]

omit [Scalar α] in
theorem freeNames_eq {layout : Layout α} {offset : Nat} {entities : List (Entity α)}
    (blocks : layout.blocks = Block.ofEntities offset entities) :
    layout.freeNames = (entities.filter fun entity => !entity.fixed).map Entity.name := by
  rw [freeNames, blocks]
  clear blocks
  induction entities generalizing offset with
  | nil => rfl
  | cons entity rest ih =>
      rw [Block.ofEntities]
      cases fixed : entity.fixed <;> simp [fixed, ih]

/-- The flat view of a store: its blocks are those of the entities, one after the other. -/
theorem ofStore_inv {store : Store α} {layout : Layout α} (laid : ofStore store = .ok layout) :
    layout.blocks = Block.ofEntities 0 store.entities ∧
      layout.freeSlots = freeSlotsOf layout.blocks ∧
      store.constraints.mapM (bind layout.blocks) = .ok layout.bound.toList := by
  obtain ⟨bound, bindings, done⟩ := ok_of_bind laid
  cases done
  exact ⟨rfl, rfl, bindings⟩

end Layout

namespace Newton

variable [Scalar.StrictOrder α]

/-- **A run changes unknowns only.** -/
theorem run_agrees (problem : Problem α) (polls : Nat → Bool) (values : Array α) :
    problem.layout.Agrees values (run problem polls values).values :=
  run_values_induction problem polls values _ ⟨rfl, fun _ _ => rfl⟩
    fun _ correction _ agrees => Layout.agrees_advance agrees problem.settings.damping
      correction.delta

/-- **A run leaves fixed entities what they were.** -/
theorem readAt_run_of_fixed {store : Store α} {problem : Problem α}
    (laid : Layout.ofStore store = .ok problem.layout) (polls : Nat → Bool)
    {place : Nat × Entity α} (member : place ∈ Entity.placed 0 store.entities)
    (fixed : place.2.fixed = true) :
    Entity.readAt (run problem polls store.parameters.toArray).values place = place.2 := by
  obtain ⟨blocks, freeSlots, _⟩ := Layout.ofStore_inv laid
  have agrees := run_agrees problem polls store.parameters.toArray
  have unchanged : ∀ slot ∈ (Entity.block place).slots,
      (run problem polls store.parameters.toArray).values[slot]? =
        store.parameters.toArray[slot]? := by
    intro slot own
    refine agrees.pinned slot ?_
    rw [freeSlots, blocks]
    exact Entity.notMem_freeSlots member fixed own
  have own : store.parameters.toArray.toList.drop 0 = store.entities.flatMap Entity.parameters :=
    rfl
  rw [Entity.readAt_congr unchanged]
  exact Entity.readAt_own own member

end Newton

end PlanarSketch
