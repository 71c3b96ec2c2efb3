import PlanarSketch.Proofs.Checked
import PlanarSketch.Proofs.Ledger.Gathered
import PlanarSketch.Record.Store

/-!
# What a document is read as

Reading the records of entities and then filing them is the same as filing each when it is read
(`Store.foldlM_readEntity_eq`). Each constraint is also checked for names that are not there, and
since the entities are all filed by then, it does not matter when this is done
(`Store.foldlM_readConstraint_eq_ok_iff`).

So a document is read exactly when all its records are, those included that are replaced later, and
the constraints refer to entities of the document. The store then has every name once, where it
first occurs, with what the last record of that name says (`Store.ofJson_exact`).
-/

set_option autoImplicit false

namespace PlanarSketch

namespace Store

/-! ## Entities -/

theorem foldl_addEntity (entities : List (Entity Float)) (store : Store Float) :
    entities.foldl addEntity store =
      { store with entities := Ledger.fileAll entities store.entities } := by
  induction entities generalizing store with
  | nil => rfl
  | cons entity rest ih =>
      rw [List.foldl_cons, ih]
      rfl

theorem foldlM_readEntity_eq (records : List Json) (store : Store Float) :
    records.foldlM readEntity store = (records.mapM Entity.ofJson).map fun entities =>
      { store with entities := Ledger.fileAll entities store.entities } := by
  simp only [← foldl_addEntity]
  exact foldlM_eq_map_mapM records store

/-! ## Constraints -/

theorem addConstraint_eq_ok_iff {store after : Store Float} {constraint : Constraint Float} :
    store.addConstraint constraint = .ok after ↔
      (∀ name ∈ constraint.relation.refs, name ∈ Ledger.names store.entities) ∧
        after = { store with constraints := Ledger.file constraint store.constraints } := by
  have missing (name : Text) :
      (!store.hasEntity name) = true ↔ name ∉ Ledger.names store.entities := by
    rw [Bool.not_eq_true', Bool.eq_false_iff]
    exact not_congr (Ledger.contains_iff name store.entities)
  rw [addConstraint]
  split
  case h_1 name lost =>
    have unhad : (!store.hasEntity name) = true :=
      @List.find?_some _ (fun entity => !store.hasEntity entity) name _ lost
    have unknown := (missing name).mp unhad
    exact iff_of_false nofun fun known => unknown (known.1 name (List.mem_of_find?_eq_some lost))
  case h_2 complete =>
    have known : ∀ name ∈ constraint.relation.refs, name ∈ Ledger.names store.entities := by
      intro name referred
      exact Decidable.not_not.mp (mt (missing name).mpr
        (List.find?_eq_none.mp complete name referred))
    rw [Except.ok.injEq, eq_comm]
    exact (and_iff_right known).symm

theorem foldlM_readConstraint_eq_ok_iff {records : List Json} {store after : Store Float} :
    records.foldlM readConstraint store = .ok after ↔ ∃ constraints,
      records.mapM Constraint.ofJson = .ok constraints ∧
        (∀ constraint ∈ constraints, ∀ name ∈ constraint.relation.refs,
          name ∈ Ledger.names store.entities) ∧
        after = { store with constraints := Ledger.fileAll constraints store.constraints } := by
  -- On the records still to be read. None of them changes the entities, so the known names stay the
  -- same.
  induction records generalizing store with
  | nil =>
      constructor
      · rintro ⟨⟩
        exact ⟨[], rfl, nofun, rfl⟩
      · rintro ⟨_, ⟨⟩, _, rfl⟩
        rfl
  | cons record rest ih =>
      rw [List.foldlM_cons, List.mapM_cons]
      constructor
      · intro done
        obtain ⟨middle, here, later⟩ := ok_of_bind done
        obtain ⟨constraint, built, filed⟩ := ok_of_bind here
        obtain ⟨known, rfl⟩ := addConstraint_eq_ok_iff.mp filed
        obtain ⟨constraints, read, others, rfl⟩ := ih.mp later
        rw [built, read]
        exact ⟨constraint :: constraints, rfl, List.forall_mem_cons.mpr ⟨known, others⟩, rfl⟩
      · rintro ⟨_, done, known, rfl⟩
        obtain ⟨constraint, built, later⟩ := ok_of_bind done
        obtain ⟨constraints, read, done⟩ := ok_of_bind later
        cases done
        obtain ⟨here, others⟩ := List.forall_mem_cons.mp known
        have filed : store.readConstraint record =
            .ok { store with constraints := Ledger.file constraint store.constraints } := by
          rw [readConstraint, built]
          exact addConstraint_eq_ok_iff.mpr ⟨here, rfl⟩
        rw [filed]
        exact ih.mpr ⟨constraints, read, others, rfl⟩

/-! ## Documents -/

section Document

variable {fields : List (Text × Json)} {entityRecords constraintRecords : List Json}

/-- A document with lists of records is read exactly when the records are, and the constraints refer
to entities that are there. -/
theorem ofJson_eq_ok_iff (listed : Json.optional "entities" (.arr []) fields = .arr entityRecords)
    (also : Json.optional "constraints" (.arr []) fields = .arr constraintRecords)
    {store : Store Float} :
    Store.ofJson (.obj fields) = .ok store ↔ ∃ entities constraints,
      entityRecords.mapM Entity.ofJson = .ok entities ∧
        constraintRecords.mapM Constraint.ofJson = .ok constraints ∧
        (∀ constraint ∈ constraints, ∀ name ∈ constraint.relation.refs,
          name ∈ Ledger.names entities) ∧
        store = {
          entities := Ledger.fileAll entities []
          constraints := Ledger.fileAll constraints [] } := by
  have steps : Store.ofJson (.obj fields) =
      entityRecords.foldlM readEntity {} >>= fun store =>
        constraintRecords.foldlM readConstraint store := by
    rw [Store.ofJson, listed, also]
    rfl
  rw [steps, foldlM_readEntity_eq]
  cases read : entityRecords.mapM Entity.ofJson with
  | error error => simp [Except.map, bind, Except.bind]
  | ok entities =>
      have named :
          ∀ name, name ∈ Ledger.names (Ledger.fileAll entities []) ↔
            name ∈ Ledger.names entities := by
        intro name
        rw [(Ledger.gathers_fileAll entities).names, List.mem_eraseDups]
      refine foldlM_readConstraint_eq_ok_iff.trans ?_
      simp [named]

/-- **Loading is exact.** A document with lists of records is read exactly when each record of an
entity and each record of a constraint is, and every name that a constraint record refers to is that
of some entity record. The entities of the store then have the names of the entity records in the
order of their first occurrences, each with what the last record of that name says; and so have the
constraints. -/
theorem ofJson_exact (listed : Json.optional "entities" (.arr []) fields = .arr entityRecords)
    (also : Json.optional "constraints" (.arr []) fields = .arr constraintRecords) :
    ((∃ store, Store.ofJson (.obj fields) = .ok store) ↔
      (∀ record ∈ entityRecords, ∃ entity, Entity.ofJson record = .ok entity) ∧
      (∀ record ∈ constraintRecords, ∃ constraint, Constraint.ofJson record = .ok constraint) ∧
      ∀ record ∈ constraintRecords, ∀ constraint, Constraint.ofJson record = .ok constraint →
        ∀ name ∈ constraint.relation.refs, ∃ source ∈ entityRecords, ∃ entity,
          Entity.ofJson source = .ok entity ∧ entity.name = name) ∧
    ∀ store, Store.ofJson (.obj fields) = .ok store → ∃ entities constraints,
      entityRecords.mapM Entity.ofJson = .ok entities ∧ Ledger.Gathers entities store.entities ∧
      constraintRecords.mapM Constraint.ofJson = .ok constraints ∧
        Ledger.Gathers constraints store.constraints := by
  constructor
  · constructor
    · rintro ⟨store, read⟩
      obtain ⟨entities, constraints, entitiesRead, constraintsRead, known, _⟩ :=
        (ofJson_eq_ok_iff listed also).mp read
      refine ⟨exists_mapM_iff.mp ⟨_, entitiesRead⟩, exists_mapM_iff.mp ⟨_, constraintsRead⟩, ?_⟩
      intro record member constraint built name referred
      have made : constraint ∈ constraints :=
        (mem_of_mapM constraintsRead constraint).mpr ⟨record, member, built⟩
      obtain ⟨entity, present, rfl⟩ := List.mem_map.mp (known constraint made name referred)
      obtain ⟨source, among, described⟩ := (mem_of_mapM entitiesRead entity).mp present
      exact ⟨source, among, entity, described, rfl⟩
    · rintro ⟨entitiesPass, constraintsPass, known⟩
      obtain ⟨entities, entitiesRead⟩ := exists_mapM_iff.mpr entitiesPass
      obtain ⟨constraints, constraintsRead⟩ := exists_mapM_iff.mpr constraintsPass
      refine ⟨_, (ofJson_eq_ok_iff listed also).mpr
        ⟨entities, constraints, entitiesRead, constraintsRead, ?_, rfl⟩⟩
      intro constraint made name referred
      obtain ⟨record, member, built⟩ := (mem_of_mapM constraintsRead constraint).mp made
      obtain ⟨source, among, entity, described, rfl⟩ :=
        known record member constraint built name referred
      exact List.mem_map_of_mem ((mem_of_mapM entitiesRead entity).mpr ⟨source, among, described⟩)
  · intro store read
    obtain ⟨entities, constraints, entitiesRead, constraintsRead, _, rfl⟩ :=
      (ofJson_eq_ok_iff listed also).mp read
    exact ⟨entities, constraints, entitiesRead, Ledger.gathers_fileAll entities, constraintsRead,
      Ledger.gathers_fileAll constraints⟩

end Document

namespace Repeated

def entityRecords : List Json := [
  .obj [("id", .str "A"), ("type", .str "point"), ("parameters", .arr [.int 0, .int 0])],
  .obj [("id", .str "B"), ("type", .str "point"), ("parameters", .arr [.int 1, .int 0])],
  .obj [("id", .str "A"), ("type", .str "line"),
    ("parameters", .arr [.int 0, .int 0, .int 1, .int 1])]]

def constraintRecords : List Json := [
  .obj [("id", .str "d"), ("type", .str "distance"), ("entityIds", .arr [.str "A", .str "B"]),
    ("value", .int 1)],
  .obj [("id", .str "h"), ("type", .str "horizontal"), ("entityIds", .arr [.str "A"])],
  .obj [("id", .str "d"), ("type", .str "distance"), ("entityIds", .arr [.str "B", .str "A"]),
    ("value", .int 2)]]

end Repeated

open Repeated in
/-- A point and a constraint that come twice stay in their places, as what they are the second time:
a line, and the constraint with its references exchanged. -/
theorem ofJson_repeated :
    ∃ store, Store.ofJson (.obj [("entities", .arr entityRecords),
        ("constraints", .arr constraintRecords)]) = .ok store ∧
      Ledger.names store.entities = ["A", "B"] ∧ (store.entity? "A").map Entity.kind = some .line ∧
      Ledger.names store.constraints = ["d", "h"] ∧
      (store.constraint? "d").map Constraint.relation = some (.distance "B" "A") := by
  obtain ⟨_, described⟩ := @ofJson_exact
    [("entities", .arr entityRecords), ("constraints", .arr constraintRecords)]
    entityRecords constraintRecords rfl rfl
  have loads : (Store.ofJson (.obj [("entities", .arr entityRecords),
      ("constraints", .arr constraintRecords)])).isOk = true := by decide +kernel
  cases read : Store.ofJson (.obj
    [("entities", .arr entityRecords), ("constraints", .arr constraintRecords)]) with
  | error error =>
      rw [read] at loads
      cases loads
  | ok store =>
      obtain ⟨entities, constraints, entitiesRead, gathered, constraintsRead, ordered⟩ :=
        described store read
      have shapes : (entityRecords.mapM Entity.ofJson).toOption.map (fun entities =>
          (Ledger.names entities, (Ledger.find? "A" entities.reverse).map Entity.kind)) =
            some ((["A", "B", "A"] : List Text), some ShapeKind.line) := by decide +kernel
      have relations : (constraintRecords.mapM Constraint.ofJson).toOption.map (fun constraints =>
          (Ledger.names constraints, (Ledger.find? "d" constraints.reverse).map
            Constraint.relation)) =
            some ((["d", "h", "d"] : List Text), some (Relation.distance ("B" : Text) "A")) := by
              decide +kernel
      rw [entitiesRead] at shapes
      rw [constraintsRead] at relations
      obtain ⟨entityNames, kind⟩ := Prod.mk.inj (Option.some.inj shapes)
      obtain ⟨constraintNames, relation⟩ := Prod.mk.inj (Option.some.inj relations)
      refine ⟨store, rfl, ?_, ?_, ?_, ?_⟩
      · rw [gathered.names, entityNames]
        decide
      · rw [entity?, gathered.last, kind]
      · rw [ordered.names, constraintNames]
        decide
      · rw [constraint?, ordered.last, relation]

end Store

end PlanarSketch
