import PlanarSketch.Proofs.Checked
import PlanarSketch.Proofs.Layout.Placement
import PlanarSketch.Proofs.Ledger.Distinct

/-!
# Constraints measured on the entities they name

In the flat view a constraint is measured without names: they are replaced by places, and points and
directions are read off the array. What is measured can be said without the array, too, by the
formula of the relation on the points and directions of the entities themselves
(`Relation.measure`).

A name stands for the place of the first entity that has it, and the parameters read there are those
of that entity. So both ways give the same, whatever the store and the numbers
(`Store.evaluate_eq_map_measure`), and they fail at the first name that no entity has
(`Store.evaluate_eq_error_iff`).
-/

set_option autoImplicit false

namespace PlanarSketch

variable {α : Type}

/-! ## Resolving references -/

namespace Relation

variable {ρ σ τ ε : Type}

/-- Changing each reference once it is resolved is changing the relation. -/
theorem resolve_map (find : ρ → Except ε σ) (change : σ → τ) (relation : Relation ρ) :
    (relation.resolve fun name => (find name).map change) =
      (relation.resolve find).map (map change) := by
  cases relation with
  | distance a b | angle a b | parallel a b | perpendicular a b | coincident a b =>
      simp only [resolve]
      cases find a with
      | error error => rfl
      | ok first => cases find b <;> rfl
  | horizontal a | vertical a =>
      simp only [resolve]
      cases find a <;> rfl

/-- Resolving references does not change the kind. -/
theorem kind_of_resolve {find : ρ → Except ε σ} {relation : Relation ρ} {resolved : Relation σ}
    (done : relation.resolve find = .ok resolved) : resolved.kind = relation.kind := by
  cases relation with
  | distance a b | angle a b | parallel a b | perpendicular a b | coincident a b =>
      obtain ⟨first, _, rest⟩ := ok_of_bind done
      obtain ⟨second, _, done⟩ := ok_of_bind rest
      cases done
      rfl
  | horizontal a | vertical a =>
      obtain ⟨only, _, done⟩ := ok_of_bind done
      cases done
      rfl

/-- Resolving fails at the first reference that is not known. -/
theorem resolve_eq_error_iff {find : ρ → Except ε σ} {known : ρ → Bool} {fault : ρ → ε}
    (found : ∀ name, known name = true → ∃ x, find name = .ok x)
    (lost : ∀ name, known name = false → find name = .error (fault name)) (relation : Relation ρ)
    (error : ε) :
    relation.resolve find = .error error ↔
      ∃ name, relation.refs.find? (fun name => !known name) = some name ∧ error = fault name := by
  cases relation with
  | distance a b | angle a b | parallel a b | perpendicular a b | coincident a b =>
      cases first : known a with
      | false => simp [resolve, refs, first, lost a first, bind, Except.bind, eq_comm]
      | true =>
          obtain ⟨x, resolved⟩ := found a first
          cases second : known b with
          | false =>
              simp [resolve, refs, first, second, resolved, lost b second, bind,
                Except.bind, eq_comm]
          | true =>
              obtain ⟨y, also⟩ := found b second
              simp [resolve, refs, first, second, resolved, also, bind, Except.bind, pure,
                Except.pure]
  | horizontal a | vertical a =>
      cases only : known a with
      | false => simp [resolve, refs, only, lost a only, bind, Except.bind, eq_comm]
      | true =>
          obtain ⟨x, resolved⟩ := found a only
          simp [resolve, refs, only, resolved, bind, Except.bind, pure, Except.pure]

end Relation

/-! ## Looking names up -/

namespace Entity

/-- The block a name stands for is that of the first entity with the name. -/
theorem find?_ofEntities (offset : Nat) (entities : List (Entity α)) (name : Text) :
    Ledger.find? name (Block.ofEntities offset entities) =
      ((placed offset entities).find? fun place => place.2.name == name).map block := by
  rw [ofEntities_eq, Ledger.find?, List.find?_map]
  rfl

theorem find?_eq_map_placed (offset : Nat) (entities : List (Entity α)) (name : Text) :
    Ledger.find? name entities =
      ((placed offset entities).find? fun place => place.2.name == name).map Prod.snd := by
  conv_lhs => rw [← map_snd_placed offset entities]
  rw [Ledger.find?, List.find?_map]
  rfl

/-- The point of an entity that distances are taken from. -/
def point (entity : Entity α) : α × α := entity.shape.anchor

def direction [Scalar α] (entity : Entity α) : α × α := entity.shape.direction

end Entity

variable [Scalar α]

/-! ## Measuring -/

/-- How far a relation between entities is from holding with a value, which is in degrees for an
angle: the formula of its kind on their points and directions. -/
def Relation.measure (value : α) : Relation (Entity α) → α
  | distance a b => separation a.point b.point - value
  | angle a b => angleBetween a.direction b.direction - Scalar.radians value
  | parallel a b => Scalar.abs (cross a.direction b.direction)
  | perpendicular a b => dot a.direction b.direction
  | coincident a b => separation a.point b.point
  | horizontal a => a.direction.2
  | vertical a => a.direction.1

/-- The residual of the shapes, with the target of a constraint, is the measure of the entities with
its value. -/
theorem Relation.residual_map_shape {constraint : Constraint α} {entities : Relation (Entity α)}
    (same : entities.kind = constraint.kind) :
    (entities.map Entity.shape).residual constraint.target =
      entities.measure (constraint.value.getD Scalar.zero) := by
  cases entities with
  | distance a b | angle a b =>
      rw [Constraint.target, ← same]
      rfl
  | parallel | perpendicular | coincident | horizontal | vertical => rfl

namespace Store

/-- The entity of a name. -/
def named (store : Store α) (name : Text) : Except (Error α) (Entity α) :=
  match store.entity? name with
  | some entity => .ok entity
  | none => .error (.nameUnknown (.str name))

/-- The place of a name in the flat view. -/
def operand (store : Store α) (name : Text) : Except (Error α) Operand :=
  match Ledger.find? name (Block.ofEntities 0 store.entities) with
  | some block => .ok (Operand.ofBlock block)
  | none => .error (.nameUnknown (.str name))

/-- What is read off the place of a name is the shape of the entity of that name. -/
theorem map_shape_operand (store : Store α) (name : Text) :
    (store.operand name).map (Operand.shape store.parameters.toArray) =
      (store.named name).map Entity.shape := by
  rw [operand, named, entity?, Entity.find?_ofEntities, Entity.find?_eq_map_placed 0]
  cases found : (Entity.placed 0 store.entities).find? fun place => place.2.name == name with
  | none => rfl
  | some place =>
      have own : Entity.readAt store.parameters.toArray place = place.2 :=
        Entity.readAt_own rfl (List.mem_of_find?_eq_some found)
      exact congrArg (fun entity => Except.ok (Entity.shape entity)) own

/-- **Measuring in the flat view is measuring the entities.** -/
theorem evaluate_eq_map_measure (store : Store α) (constraint : Constraint α) :
    store.evaluate constraint = (constraint.relation.resolve store.named).map
      (Relation.measure (constraint.value.getD Scalar.zero)) := by
  have bound : store.evaluate constraint =
      ((constraint.relation.resolve store.operand).map
        (Relation.map (Operand.shape store.parameters.toArray))).map
          (Relation.residual constraint.target) := by
    change (constraint.relation.resolve store.operand >>= _) >>= _ = _
    cases constraint.relation.resolve store.operand <;> rfl
  rw [bound, ← Relation.resolve_map]
  simp only [map_shape_operand]
  rw [Relation.resolve_map]
  cases resolved : constraint.relation.resolve store.named with
  | error error => rfl
  | ok entities =>
      exact congrArg Except.ok (Relation.residual_map_shape (Relation.kind_of_resolve resolved))

/-! ## Failing -/

omit [Scalar α] in
theorem named_of_hasEntity (store : Store α) (name : Text) (known : store.hasEntity name = true) :
    ∃ entity, store.named name = .ok entity := by
  obtain ⟨entity, found⟩ :=
    Ledger.find?_of_mem_names ((Ledger.contains_iff name store.entities).mp known)
  exact ⟨entity, by rw [named, entity?, found]⟩

omit [Scalar α] in
theorem named_of_not_hasEntity (store : Store α) (name : Text)
    (unknown : store.hasEntity name = false) :
    store.named name = .error (.nameUnknown (.str name)) := by
  have none : store.entity? name = none := by
    refine List.find?_eq_none.mpr fun entity member same => ?_
    have known : store.hasEntity name = true := List.any_eq_true.mpr ⟨entity, member, same⟩
    rw [unknown] at known
    cases known
  rw [named, none]

/-- Measuring fails at the first name that no entity has. -/
theorem evaluate_eq_error_iff (store : Store α) (constraint : Constraint α) (error : Error α) :
    store.evaluate constraint = .error error ↔ ∃ missing,
      constraint.relation.refs.find? (fun name => !store.hasEntity name) = some missing ∧
        error = .nameUnknown (.str missing) := by
  rw [evaluate_eq_map_measure,
    ← Relation.resolve_eq_error_iff store.named_of_hasEntity store.named_of_not_hasEntity]
  cases constraint.relation.resolve store.named <;> simp [Except.map]

/-- A constraint whose names are all known measures the entities of these names. -/
theorem evaluate_of_known {store : Store α} {constraint : Constraint α}
    (known : ∀ name ∈ constraint.relation.refs, store.hasEntity name = true) :
    ∃ entities, constraint.relation.resolve store.named = .ok entities ∧
      store.evaluate constraint = .ok (entities.measure (constraint.value.getD Scalar.zero)) := by
  cases resolved : constraint.relation.resolve store.named with
  | error error =>
      obtain ⟨missing, first, _⟩ := (Relation.resolve_eq_error_iff store.named_of_hasEntity
        store.named_of_not_hasEntity constraint.relation error).mp resolved
      have unknown := List.find?_some first
      rw [known missing (List.mem_of_find?_eq_some first)] at unknown
      cases unknown
  | ok entities => exact ⟨entities, rfl, by rw [evaluate_eq_map_measure, resolved, Except.map]⟩

end Store

end PlanarSketch
