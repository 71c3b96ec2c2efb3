import Mathlib.Data.Option.Basic
import PlanarSketch.Proofs.Store.Coherent

/-!
# Stores with the same records in another order

The order of a store is the order in which its names first appeared. Two stores can hold the same
entities and constraints under the same names in different orders, and a constraint between two
entities can name them in either order (`Store.Rearranged`). Which records there are under a name is
then the same question in both stores (`Store.Rearranged.mem_entities`, `Store.Rearranged.alike`).

What is asked of each store alone is that it is coherent (`Store.Coherent`), and filing and removing
records makes no other.
-/

set_option autoImplicit false

namespace PlanarSketch

/-! ## The order of references -/

namespace Relation

variable {ρ σ : Type}

/-- Exchanges the two references of a relation; one with a single reference stays. -/
def swap : Relation ρ → Relation ρ
  | distance a b => distance b a
  | angle a b => angle b a
  | parallel a b => parallel b a
  | perpendicular a b => perpendicular b a
  | coincident a b => coincident b a
  | horizontal a => horizontal a
  | vertical a => vertical a

@[simp] theorem kind_swap (relation : Relation ρ) : relation.swap.kind = relation.kind := by
  cases relation <;> rfl

theorem map_swap (f : ρ → σ) (relation : Relation ρ) :
    relation.swap.map f = (relation.map f).swap := by
  cases relation <;> rfl

theorem mem_refs_swap (relation : Relation ρ) (a : ρ) :
    a ∈ relation.swap.refs ↔ a ∈ relation.refs := by
  cases relation <;> simp [swap, refs, or_comm]

end Relation

variable {α : Type}

/-- A constraint with its references exchanged. -/
def Constraint.swap (constraint : Constraint α) : Constraint α :=
  { constraint with relation := constraint.relation.swap }

/-- One constraint is the other, or the other with its references exchanged. -/
def Constraint.Alike (first second : Constraint α) : Prop := second = first ∨ second = first.swap

namespace Constraint.Alike

variable {first second : Constraint α}

theorem name (alike : Alike first second) : second.name = first.name := by
  rcases alike with rfl | rfl <;> rfl

theorem kind (alike : Alike first second) : second.kind = first.kind := by
  rcases alike with rfl | rfl
  · rfl
  · exact Relation.kind_swap first.relation

theorem target [Scalar α] (alike : Alike first second) : second.target = first.target := by
  have value : second.value = first.value := by rcases alike with rfl | rfl <;> rfl
  rw [Constraint.target, Constraint.target, alike.kind, value]

theorem tolerance (alike : Alike first second) : second.tolerance = first.tolerance := by
  rcases alike with rfl | rfl <;> rfl

end Constraint.Alike

/-! ## Records under their names -/

namespace Ledger

variable {β : Type} [Named β]

theorem mem_iff_find? {records : List β} (distinct : Distinct records) (record : β) :
    record ∈ records ↔ find? (Named.name record) records = some record :=
  ⟨find?_of_mem distinct, fun found => (mem_of_find? found).1⟩

/-- With distinct names, the same records are found in any order. -/
theorem find?_congr {first second : List β} (distinct : Distinct first)
    (distinct' : Distinct second) (same : ∀ record, record ∈ first ↔ record ∈ second)
    (name : Text) :
    find? name first = find? name second := by
  refine Option.ext fun record => ?_
  constructor
  · intro found
    obtain ⟨present, rfl⟩ := mem_of_find? found
    exact find?_of_mem distinct' ((same record).mp present)
  · intro found
    obtain ⟨present, rfl⟩ := mem_of_find? found
    exact find?_of_mem distinct ((same record).mpr present)

end Ledger

namespace Store

/-- Two stores hold the same entities under the same names, and the same constraints up to the order
of their references. The orders of the records may be any. -/
structure Rearranged (first second : Store α) : Prop where
  entity : ∀ name, first.entity? name = second.entity? name
  constraint : ∀ name, Option.Rel Constraint.Alike (first.constraint? name)
    (second.constraint? name)

namespace Rearranged

variable {first second : Store α}

theorem mem_entities (rearranged : first.Rearranged second) (coherent : first.Coherent)
    (coherent' : second.Coherent) (entity : Entity α) :
    entity ∈ first.entities ↔ entity ∈ second.entities := by
  rw [Ledger.mem_iff_find? coherent.entityNames, Ledger.mem_iff_find? coherent'.entityNames]
  exact Eq.congr_left (rearranged.entity entity.name)

/-- Constraints of one name are the same up to the order of references. -/
theorem alike (rearranged : first.Rearranged second) (coherent : first.Coherent)
    (coherent' : second.Coherent) {constraint constraint' : Constraint α}
    (member : constraint ∈ first.constraints) (member' : constraint' ∈ second.constraints)
    (name : constraint'.name = constraint.name) :
    constraint.Alike constraint' := by
  have related := rearranged.constraint constraint.name
  have found : first.constraint? constraint.name = some constraint :=
    Ledger.find?_of_mem coherent.constraintNames member
  have found' : second.constraint? constraint'.name = some constraint' :=
    Ledger.find?_of_mem coherent'.constraintNames member'
  rw [found, ← name, found'] at related
  cases related with
  | some alike => exact alike

theorem mem_constraintNames (rearranged : first.Rearranged second) (name : Text) :
    name ∈ Ledger.names first.constraints ↔ name ∈ Ledger.names second.constraints := by
  have related := rearranged.constraint name
  have found (store : Store α) :
      name ∈ Ledger.names store.constraints ↔ (store.constraint? name).isSome = true := by
    rw [Store.constraint?, Ledger.find?, List.find?_isSome]
    simp [Ledger.names]
  rw [found, found]
  generalize first.constraint? name = holds at related ⊢
  generalize second.constraint? name = holds' at related ⊢
  cases related with
  | none => rfl
  | some _ => exact iff_of_true rfl rfl

end Rearranged

end Store

end PlanarSketch
