import PlanarSketch.Proofs.Ledger.Distinct
import PlanarSketch.Store

/-!
# Coherent stores

In a store no name is taken twice, and constraints refer to entities that are there
(`Store.Coherent`). The empty store is coherent, and filing and removing records keeps stores
coherent, whatever numbers are in them.
-/

set_option autoImplicit false

namespace PlanarSketch

namespace Store

variable {α : Type}

/-- No name is taken twice, and every constraint refers to entities that are there. -/
structure Coherent (store : Store α) : Prop where
  entityNames : Ledger.Distinct store.entities
  constraintNames : Ledger.Distinct store.constraints
  references : ∀ constraint ∈ store.constraints, ∀ name ∈ constraint.relation.refs,
    name ∈ Ledger.names store.entities

theorem coherent_empty : Coherent ({} : Store α) where
  entityNames := List.nodup_nil
  constraintNames := List.nodup_nil
  references := nofun

namespace Coherent

variable {store : Store α}

theorem addEntity (coherent : store.Coherent) (entity : Entity α) :
    (store.addEntity entity).Coherent where
  entityNames := Ledger.distinct_file entity coherent.entityNames
  constraintNames := coherent.constraintNames
  references := fun constraint member name referred =>
    (Ledger.mem_names_file entity store.entities name).mpr
      (.inr (coherent.references constraint member name referred))

/-- With an entity the constraints on it are taken out, so no reference to it is left. -/
theorem removeEntity (coherent : store.Coherent) (name : Text) :
    (store.removeEntity name).Coherent where
  entityNames := Ledger.distinct_erase name coherent.entityNames
  constraintNames := coherent.constraintNames.sublist (List.filter_sublist.map _)
  references := by
    intro constraint member other referred
    obtain ⟨present, unrelated⟩ := List.mem_filter.mp member
    refine Ledger.mem_names_erase (coherent.references constraint present other referred) ?_
    rintro rfl
    simp [Constraint.refersTo, referred] at unrelated

theorem removeConstraint (coherent : store.Coherent) (name : Text) :
    (store.removeConstraint name).Coherent where
  entityNames := coherent.entityNames
  constraintNames := Ledger.distinct_erase name coherent.constraintNames
  references :=
    fun constraint member => coherent.references constraint (List.mem_of_mem_filter member)

theorem addConstraint (coherent : store.Coherent) {constraint : Constraint α} {after : Store α}
    (filed : store.addConstraint constraint = .ok after) : after.Coherent := by
  rw [Store.addConstraint] at filed
  split at filed
  case h_1 _ => cases filed
  case h_2 nothingMissing =>
    cases filed
    refine ⟨coherent.entityNames, Ledger.distinct_file constraint coherent.constraintNames, ?_⟩
    intro other member name referred
    rcases Ledger.mem_file member with rfl | before
    · have present := List.find?_eq_none.mp nothingMissing name referred
      rw [Bool.not_eq_true, Bool.not_eq_false'] at present
      exact (Ledger.contains_iff name store.entities).mp present
    · exact coherent.references other before name referred

end Coherent

end Store

end PlanarSketch
