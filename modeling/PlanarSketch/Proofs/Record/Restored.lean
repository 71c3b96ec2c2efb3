import PlanarSketch.Proofs.Json.Field
import PlanarSketch.Proofs.Store.Sound

/-!
# Records are read back

What the checks let through passes them again when it is read from its own record: an entity comes
back as it was (`Entity.Sound.ofJson_toJson`), and a constraint with nothing noted about it
(`Constraint.Sound.ofJson_toJson`). So a sound store is read back from its document, in the order it
had, and only what the last solve noted is lost (`Store.Sound.ofJson_fields`).
-/

set_option autoImplicit false

namespace PlanarSketch

/-! ## Entities -/

theorem ShapeKind.ofName?_name (kind : ShapeKind) : ofName? kind.name = some kind := by
  cases kind <;> rfl

theorem Json.mapM_toDouble (xs : List Float) : (xs.map Json.float).mapM Json.toDouble = .ok xs := by
  induction xs with
  | nil => rfl
  | cons x rest ih =>
      rw [List.map_cons, List.mapM_cons, ih]
      rfl

theorem Shape.ofItems_toList {shape : Shape Float}
    (finite : shape.toList.all Scalar.isFinite = true) :
    Shape.ofItems shape.kind (shape.toList.map .float) = .ok shape := by
  have count : ¬(shape.toList.map Json.float).length ≠ shape.kind.arity := by
    rw [List.length_map, Shape.length_toList]
    exact not_not.mpr rfl
  rw [Shape.ofItems, if_neg count, Json.mapM_toDouble]
  simp only [bind, Except.bind]
  rw [Shape.check, Shape.ofList?_toList]
  exact if_pos finite

/-- **A sound entity is read back from its record.** -/
theorem Entity.Sound.ofJson_toJson {entity : Entity Float} (sound : entity.Sound) :
    Entity.ofJson entity.toJson = .ok entity := by
  have built : Entity.ofRecord entity.toJson = .ok entity := by
    have shape : Shape.ofItems entity.kind (entity.parameters.map .float) = .ok entity.shape :=
      Shape.ofItems_toList sound.finite
    have kind := ShapeKind.ofName?_name entity.kind
    simp [Entity.ofRecord, Entity.toJson, Json.fields, Json.required, Json.optional, Json.items,
      bind, Except.bind, Entity.ofParts, sound.name, Json.plain, kind, shape, Json.truthy, pure,
      Except.pure]
  rw [Entity.ofJson, built]

/-! ## Constraints -/

/-- A constraint of which nothing is noted. -/
def Constraint.unnoted (constraint : Constraint Float) : Constraint Float :=
  { constraint with satisfied := .bool false }

theorem RelationKind.ofName?_name (kind : RelationKind) : ofName? kind.name = some kind := by
  cases kind <;> rfl

theorem Constraint.Sound.checkValue {constraint : Constraint Float} (sound : constraint.Sound) :
    Constraint.checkValue constraint.name constraint.kind
      ((constraint.value.map Json.float).getD .null) = .ok constraint.value := by
  cases value : constraint.value with
  | none =>
      have needless : ¬constraint.kind.needsValue = true := by
        intro needed
        have given := sound.value needed
        rw [value] at given
        cases given
      exact if_neg needless
  | some x => exact if_pos (sound.finite x value)

/-- **A sound constraint is read back from its record, with nothing noted.** -/
theorem Constraint.Sound.ofJson_toJson {constraint : Constraint Float} (sound : constraint.Sound) :
    Constraint.ofJson constraint.toJson = .ok constraint.unnoted := by
  have built : Constraint.ofRecord constraint.toJson = .ok constraint.unnoted := by
    have kind := RelationKind.ofName?_name constraint.kind
    have relation :
        Relation.ofRefs? constraint.kind constraint.relation.refs = some constraint.relation :=
      Relation.ofRefs?_refs _
    have value := sound.checkValue
    have tolerance : Constraint.checkTolerance constraint.name (.float constraint.tolerance) =
        .ok constraint.tolerance := if_pos sound.tolerance
    have references :
        constraint.relation.refs.map (Json.plain ∘ Json.str) = constraint.relation.refs :=
      List.map_id _
    cases given : constraint.value <;>
      simp only [given, Option.map_none, Option.map_some, Option.getD_none,
        Option.getD_some] at value <;>
      simp [Constraint.ofRecord, Constraint.toJson, given, Json.fields, Json.required,
        Json.optional, Json.items, bind, Except.bind, Constraint.ofParts, sound.name, Json.plain,
        kind, references, relation, value, tolerance, pure, Except.pure, Constraint.unnoted]
  rw [Constraint.ofJson, built]

/-! ## Stores -/

/-- Filing a record under a new name puts it last. -/
theorem Ledger.file_of_notMem {β : Type} [Named β] {record : β} {records : List β}
    (fresh : Named.name record ∉ names records) : file record records = records ++ [record] := by
  induction records with
  | nil => rfl
  | cons other rest ih =>
      obtain ⟨here, later⟩ := not_or.mp (mt List.mem_cons.mpr fresh)
      rw [file, if_neg (Ne.symm here), ih later, List.cons_append]

namespace Store

/-- A store of which nothing is noted. -/
def unnoted (store : Store Float) : Store Float :=
  { store with constraints := store.constraints.map Constraint.unnoted }

theorem foldlM_readEntity {before entities : List (Entity Float)}
    {constraints : List (Constraint Float)} (distinct : Ledger.Distinct (before ++ entities))
    (sound : ∀ entity ∈ entities, entity.Sound) :
    (entities.map Entity.toJson).foldlM readEntity { entities := before, constraints } =
      .ok { entities := before ++ entities, constraints } := by
  induction entities generalizing before with
  | nil =>
      rw [List.append_nil]
      rfl
  | cons entity rest ih =>
      have fresh : Named.name entity ∉ Ledger.names before := by
        rw [Ledger.Distinct, Ledger.names, List.map_append, List.map_cons, List.nodup_middle,
          List.nodup_cons, List.mem_append, not_or] at distinct
        exact distinct.1.1
      have filed : readEntity { entities := before, constraints } entity.toJson =
          .ok { entities := before ++ [entity], constraints } := by
        rw [readEntity, (sound entity List.mem_cons_self).ofJson_toJson]
        simp only [bind, Except.bind, pure, Except.pure, addEntity, Ledger.file_of_notMem fresh]
      rw [List.append_cons] at distinct ⊢
      rw [List.map_cons, List.foldlM_cons, filed]
      exact ih distinct fun other member => sound other (List.mem_cons_of_mem entity member)

theorem foldlM_readConstraint {entities : List (Entity Float)}
    {before constraints : List (Constraint Float)}
    (distinct : Ledger.Distinct (before ++ constraints))
    (sound : ∀ constraint ∈ constraints, constraint.Sound)
    (known : ∀ constraint ∈ constraints, ∀ name ∈ constraint.relation.refs,
      name ∈ Ledger.names entities) :
    (constraints.map Constraint.toJson).foldlM readConstraint
        { entities, constraints := before.map Constraint.unnoted } =
      .ok { entities, constraints := (before ++ constraints).map Constraint.unnoted } := by
  induction constraints generalizing before with
  | nil =>
      rw [List.append_nil]
      rfl
  | cons constraint rest ih =>
      have fresh :
          Named.name constraint.unnoted ∉ Ledger.names (before.map Constraint.unnoted) := by
        rw [Ledger.Distinct, Ledger.names, List.map_append, List.map_cons, List.nodup_middle,
          List.nodup_cons, List.mem_append, not_or] at distinct
        rw [Ledger.names, List.map_map]
        exact distinct.1.1
      have present : constraint.unnoted.relation.refs.find? (fun name =>
          !hasEntity { entities, constraints := before.map Constraint.unnoted } name) = none := by
        refine List.find?_eq_none.mpr ?_
        intro name referred
        rw [hasEntity,
          (Ledger.contains_iff name entities).mpr
            (known constraint List.mem_cons_self name referred)]
        exact Bool.false_ne_true
      have filed :
          readConstraint { entities, constraints := before.map Constraint.unnoted }
            constraint.toJson =
          .ok { entities, constraints := (before ++ [constraint]).map Constraint.unnoted } := by
        rw [readConstraint, (sound constraint List.mem_cons_self).ofJson_toJson]
        simp only [bind, Except.bind]
        rw [addConstraint, present, List.map_append]
        simp only [Ledger.file_of_notMem fresh, List.map_cons, List.map_nil]
      rw [List.append_cons] at distinct ⊢
      rw [List.map_cons, List.foldlM_cons, filed]
      exact ih distinct (fun other member => sound other (List.mem_cons_of_mem constraint member))
        fun other member => known other (List.mem_cons_of_mem constraint member)

/-- **A sound store is read back from its records, with nothing noted.** -/
theorem Sound.ofJson_fields {store : Store Float} (sound : store.Sound)
    (others : List (Text × Json)) :
    Store.ofJson (.obj (store.toFields ++ others)) = .ok store.unnoted := by
  have entities : (store.entities.map Entity.toJson).foldlM readEntity {} =
      .ok { entities := store.entities } := foldlM_readEntity sound.entityNames sound.entities
  have constraints : (store.constraints.map Constraint.toJson).foldlM readConstraint
      { entities := store.entities } = .ok store.unnoted :=
    @foldlM_readConstraint store.entities [] store.constraints sound.constraintNames
      sound.constraints sound.references
  simp [Store.ofJson, toFields, Json.optional, Json.items, bind, Except.bind, entities, constraints]

end Store

end PlanarSketch
