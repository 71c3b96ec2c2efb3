import PlanarSketch.Proofs.Error.Family
import PlanarSketch.Record.Store

/-!
# Stores whose reading strays

Reading a store should fail only in the sketch's own families. A record with a value of the wrong
sort is called malformed, which is one of them. Two things stray: a number that is given by a text
that writes none, or by a whole number too large for a double, since these are not of the wrong sort
(`Json.NoDouble`); and the lists of records themselves, since they are in no record.

A store strays exactly when the first thing in it that does not pass is one of these
(`Store.failsIn_ofText`): all records before can be filed, and in its own record all that is checked
earlier is in order.
-/

set_option autoImplicit false

namespace PlanarSketch

variable {family : ErrorFamily}

/-! ## Values -/

namespace Json

/-- A value stands for no double, and not because it is of the wrong sort. -/
inductive NoDouble : ErrorFamily → Json → Prop where
  | numeral {text : Text} (unread : Decimal.read? text = none) : NoDouble .value (.str text)
  | whole {n : Int} (large : (Binary64.ofInt n).isInf = true) : NoDouble .overflow (.int n)

theorem NoDouble.family_mem {value : Json} (none : value.NoDouble family) :
    family ∈ [.value, .overflow] := by
  cases none <;> decide

/-- Whether the items of a value can be asked for. -/
def hasItems : Json → Bool
  | arr _ | str _ | obj _ => true
  | _ => false

theorem failsIn_toDouble (sorted : family ≠ .sort) (value : Json) :
    FailsIn family value.toDouble ↔ NoDouble family value := by
  constructor
  · intro fails
    cases value with
    | int n =>
        rw [toDouble] at fails
        split at fails
        case isTrue large =>
          cases fails
          exact .whole large
        case isFalse _ => cases fails
    | str text =>
        rw [toDouble] at fails
        split at fails
        case h_1 _ => cases fails
        case h_2 unread =>
          cases fails
          exact .numeral unread
    | bool _ | float _ => cases fails
    | null | arr _ | obj _ => exact absurd fails.symm sorted
  · intro none
    cases none with
    | numeral unread =>
        rw [toDouble, unread]
        rfl
    | whole large =>
        rw [toDouble, if_pos large]
        rfl

theorem failsIn_items (value : Json) :
    FailsIn family value.items ↔ family = .sort ∧ value.hasItems = false := by
  cases value <;> simp [items, hasItems, Error.family, eq_comm]

theorem failsIn_fields (sorted : family ≠ .sort) (value : Json) :
    ¬ FailsIn family value.fields := by
  cases value <;> simp [fields, Error.family, sorted.symm]

theorem failsIn_required (sorted : family ≠ .sort) (name : Text) (fields : List (Text × Json)) :
    ¬ FailsIn family (required name fields) := by
  unfold required
  split <;> simp [Error.family, sorted.symm]

theorem fields_eq_ok {value : Json} {fields : List (Text × Json)} :
    value.fields = .ok fields ↔ value = .obj fields := by
  cases value <;> simp [Json.fields]

theorem required_eq_ok {name : Text} {fields : List (Text × Json)} {value : Json} :
    required name fields = .ok value ↔ field? name fields = some value := by
  unfold required
  split <;> simp [*]

end Json

/-! ## Entities -/

namespace Entity

/-- The fields of an entity record are in order up to its parameters, of which there are as many as
its kind says. -/
structure Headed (fields : List (Text × Json)) (items : List Json) : Prop where
  named : ∃ name, Json.field? "id" fields = some (.str name) ∧ name.isEmpty = false
  listed : ∃ parameters, Json.field? "parameters" fields = some parameters ∧
    parameters.items = .ok items
  counted : ∃ type kind, Json.field? "type" fields = some type ∧
    ShapeKind.ofName? type.plain = some kind ∧ items.length = kind.arity

/-- The first parameter of an entity record that is no double strays. -/
inductive Strays (family : ErrorFamily) : Json → Prop where
  | parameter {fields : List (Text × Json)} {before after : List Json} {item : Json}
      (headed : Headed fields (before ++ item :: after))
      (read : ∀ other ∈ before, ∃ x, other.toDouble = .ok x) (unread : item.NoDouble family) :
      Strays family (.obj fields)

end Entity

theorem Shape.failsIn_check (foreign : family.isOwn = false) (kind : ShapeKind)
    (parameters : List Float) :
    ¬ FailsIn family (Shape.check kind parameters) := by
  unfold Shape.check
  split
  · exact not_failsIn_own foreign rfl
  · split
    · exact id
    · exact not_failsIn_own foreign rfl

theorem Shape.failsIn_ofItems (foreign : family.isOwn = false) (sorted : family ≠ .sort)
    (kind : ShapeKind) (items : List Json) :
    FailsIn family (Shape.ofItems kind items) ↔ items.length = kind.arity ∧
      ∃ before item after, items = before ++ item :: after ∧
        (∀ other ∈ before, ∃ x, other.toDouble = .ok x) ∧ item.NoDouble family := by
  rw [Shape.ofItems]
  split
  case isTrue other => exact iff_of_false (not_failsIn_own foreign rfl) fun both => other both.1
  case isFalse counted =>
    simp only [failsAs_bind, failsAs_mapM, Shape.failsIn_check foreign,
      Json.failsIn_toDouble sorted, and_false, exists_false, or_false, Decidable.not_not.mp counted,
      true_and]

namespace Entity

theorem failsIn_ofParts (foreign : family.isOwn = false) (name type : Json) (items : List Json)
    (fixed : Json) :
    FailsIn family (ofParts name type (.ok items) fixed) ↔
      ∃ text kind, name = .str text ∧ text.isEmpty = false ∧
        ShapeKind.ofName? type.plain = some kind ∧
        FailsIn family (Shape.ofItems kind items) := by
  unfold ofParts
  split
  case h_2 other =>
    refine iff_of_false (not_failsIn_own foreign rfl) ?_
    rintro ⟨text, _, rfl, _⟩
    exact other text rfl
  case h_1 text =>
    split
    case isTrue empty =>
      refine iff_of_false (not_failsIn_own foreign rfl) ?_
      rintro ⟨_, _, ⟨⟩, nonempty, _⟩
      exact absurd empty (Bool.eq_false_iff.mp nonempty)
    case isFalse nonempty =>
      split
      case h_1 unknown =>
        refine iff_of_false (not_failsIn_own foreign rfl) ?_
        rintro ⟨_, kind, _, _, known, _⟩
        cases unknown.symm.trans known
      case h_2 kind known => simp [failsAs_bind, known, nonempty, pure, Except.pure]

theorem failsIn_ofRecord (foreign : family.isOwn = false) (sorted : family ≠ .sort)
    (record : Json) :
    FailsIn family (ofRecord record) ↔ Strays family record := by
  -- All that fails before the numbers is of the wrong sort, and drops out.
  simp only [ofRecord, failsAs_bind, Json.failsIn_fields sorted, Json.failsIn_required sorted,
    Json.failsIn_items, sorted, false_and, false_or, Json.fields_eq_ok, Json.required_eq_ok,
    failsIn_ofParts foreign, Shape.failsIn_ofItems foreign sorted]
  constructor
  · rintro ⟨fields, rfl, name, named, type, typed, parameters, given, items, listed, text, kind,
      rfl, nonempty, known, counted, before, item, after, rfl, read, unread⟩
    exact .parameter ⟨⟨text, named, nonempty⟩, ⟨parameters, given, listed⟩,
      ⟨type, kind, typed, known, counted⟩⟩ read unread
  · rintro ⟨⟨⟨text, named, nonempty⟩, ⟨parameters, given, listed⟩,
      ⟨type, kind, typed, known, counted⟩⟩, read, unread⟩
    exact ⟨_, rfl, _, named, type, typed, parameters, given, _, listed, text, kind, rfl,
      nonempty, known, counted, _, _, _, rfl, read, unread⟩

theorem Strays.family_mem {record : Json} (strays : Strays family record) :
    family ∈ [.value, .overflow] := by
  cases strays with
  | parameter _ _ unread => exact unread.family_mem

/-- **An entity record strays at its first parameter that is no double.** What is of the wrong sort
makes it malformed. -/
theorem failsIn_ofJson (foreign : family.isOwn = false) (record : Json) :
    FailsIn family (ofJson record) ↔ Strays family record := by
  refine failsIn_relabelled foreign (fun cause found => ?_) (fun wellSorted => ?_)
    (fun sorted => failsIn_ofRecord foreign sorted record) (fun strays => ?_)
  · exact ⟨_, by rw [ofJson, found], rfl⟩
  · unfold ofJson
    split
    case h_1 cause found => exact absurd found (wellSorted cause)
    case h_2 => rfl
  · rintro rfl
    exact absurd strays.family_mem (by decide)

end Entity

/-! ## Constraints -/

/-- Some references fit a kind exactly when their number does. -/
theorem Relation.ofRefs?_isSome {ρ : Type} (kind : RelationKind) (refs : List ρ) :
    (ofRefs? kind refs).isSome = true ↔ refs.length = kind.arity := by
  rcases refs with _ | ⟨a, _ | ⟨b, _ | ⟨c, rest⟩⟩⟩ <;> cases kind
    <;> simp [ofRefs?, RelationKind.arity]

namespace Constraint

/-- The fields of a constraint record are in order up to its numbers, and it refers to as many
entities as its kind says. -/
structure Headed (fields : List (Text × Json)) (name : Text) (kind : RelationKind) : Prop where
  named : Json.field? "id" fields = some (.str name)
  nonempty : name.isEmpty = false
  typed : ∃ type, Json.field? "type" fields = some type ∧
    RelationKind.ofName? type.plain = some kind
  counted : ∃ references items, Json.field? "entityIds" fields = some references ∧
    references.items = .ok items ∧ items.length = kind.arity

/-- The target of a constraint record, if it is no double, strays, and after a target that passes
the tolerance does. -/
inductive Strays (family : ErrorFamily) : Json → Prop where
  | target {fields : List (Text × Json)} {name : Text} {kind : RelationKind}
    (headed : Headed fields name kind)
      (unread : (Json.optional "value" .null fields).NoDouble family) : Strays family (.obj fields)
  | tolerance {fields : List (Text × Json)} {name : Text} {kind : RelationKind}
      (headed : Headed fields name kind)
      (passed : ∃ target, checkValue name kind (Json.optional "value" .null fields) = .ok target)
      (unread : (Json.optional "tolerance" defaultTolerance fields).NoDouble family) :
      Strays family (.obj fields)

theorem failsIn_checkValue (foreign : family.isOwn = false) (sorted : family ≠ .sort) (name : Text)
    (kind : RelationKind) (value : Json) :
    FailsIn family (checkValue name kind value) ↔ value.NoDouble family := by
  unfold checkValue
  split
  case h_1 =>
    refine iff_of_false ?_ nofun
    split
    · exact not_failsIn_own foreign rfl
    · exact id
  case h_2 =>
    rw [failsIn_bind, Json.failsIn_toDouble sorted]
    refine or_iff_left ?_
    rintro ⟨x, _, fails⟩
    split at fails
    · exact fails
    · exact not_failsIn_own foreign rfl fails

theorem failsIn_checkTolerance (foreign : family.isOwn = false) (sorted : family ≠ .sort)
    (name : Text) (value : Json) :
    FailsIn family (checkTolerance name value) ↔ value.NoDouble family := by
  rw [checkTolerance, failsIn_bind, Json.failsIn_toDouble sorted]
  refine or_iff_left ?_
  rintro ⟨x, _, fails⟩
  split at fails
  · exact fails
  · exact not_failsIn_own foreign rfl fails

theorem failsIn_ofParts (foreign : family.isOwn = false) (sorted : family ≠ .sort)
    (name type value tolerance priority : Json) (items : List Json) :
    FailsIn family (ofParts {
      name, kind := type, references := .ok items, value, tolerance, priority }) ↔
      ∃ text kind, name = .str text ∧ text.isEmpty = false ∧
        RelationKind.ofName? type.plain = some kind ∧ items.length = kind.arity ∧
        (value.NoDouble family ∨
          (∃ target, checkValue text kind value = .ok target) ∧ tolerance.NoDouble family) := by
  unfold ofParts
  dsimp only
  split
  case h_2 other =>
    refine iff_of_false (not_failsIn_own foreign rfl) ?_
    rintro ⟨text, _, rfl, _⟩
    exact other text rfl
  case h_1 text =>
    split
    case isTrue empty =>
      refine iff_of_false (not_failsIn_own foreign rfl) ?_
      rintro ⟨_, _, ⟨⟩, nonempty, _⟩
      exact absurd empty (Bool.eq_false_iff.mp nonempty)
    case isFalse nonempty =>
      split
      case h_1 unknown =>
        refine iff_of_false (not_failsIn_own foreign rfl) ?_
        rintro ⟨_, kind, _, _, known, _⟩
        cases unknown.symm.trans known
      case h_2 kind known =>
        have fits := Relation.ofRefs?_isSome kind (items.map Json.plain)
        rw [List.length_map] at fits
        rw [failsIn_ok_bind]
        split
        case h_1 unfit =>
          refine iff_of_false (not_failsIn_own foreign rfl) ?_
          rintro ⟨_, _, _, _, same, counted, _⟩
          cases known.symm.trans same
          have fit := fits.mpr counted
          rw [unfit] at fit
          cases fit
        case h_2 relation fit =>
          have counted := fits.mp (Option.isSome_of_eq_some fit)
          simp only [failsIn_bind, failsIn_checkValue foreign sorted,
            failsIn_checkTolerance foreign sorted, failsIn_pure, and_false, exists_false, or_false,
            exists_and_right]
          constructor
          · intro unread
            exact ⟨text, kind, rfl, Bool.eq_false_iff.mpr nonempty, known, counted, unread⟩
          · rintro ⟨_, other, ⟨⟩, _, same, _, unread⟩
            cases known.symm.trans same
            exact unread

theorem failsIn_ofRecord (foreign : family.isOwn = false) (sorted : family ≠ .sort)
    (record : Json) :
    FailsIn family (ofRecord record) ↔ Strays family record := by
  -- All that fails before the numbers is of the wrong sort, and drops out.
  simp only [ofRecord, failsAs_bind, Json.failsIn_fields sorted, Json.failsIn_required sorted,
    Json.failsIn_items, sorted, false_and, false_or, Json.fields_eq_ok, Json.required_eq_ok,
    failsIn_ofParts foreign sorted]
  constructor
  · rintro ⟨fields, rfl, _, named, type, typed, references, given, items, listed, name, kind,
      rfl, nonempty, known, counted, unread | ⟨passed, unread⟩⟩
    · exact .target ⟨named, nonempty, ⟨type, typed, known⟩,
        ⟨references, items, given, listed, counted⟩⟩ unread
    · exact .tolerance ⟨named, nonempty, ⟨type, typed, known⟩,
        ⟨references, items, given, listed, counted⟩⟩ passed unread
  · rintro (
      ⟨⟨named, nonempty, ⟨type, typed, known⟩, references, items, given, listed, counted⟩,
        unread⟩ |
      ⟨⟨named, nonempty, ⟨type, typed, known⟩, references, items, given, listed, counted⟩,
        passed, unread⟩)
    · exact ⟨_, rfl, _, named, type, typed, references, given, items, listed, _, _, rfl,
        nonempty, known, counted, .inl unread⟩
    · exact ⟨_, rfl, _, named, type, typed, references, given, items, listed, _, _, rfl,
        nonempty, known, counted, .inr ⟨passed, unread⟩⟩

theorem Strays.family_mem {record : Json} (strays : Strays family record) :
    family ∈ [.value, .overflow] := by
  cases strays with
  | target _ unread => exact unread.family_mem
  | tolerance _ _ unread => exact unread.family_mem

/-- **A constraint record strays at its target or its tolerance.** What is of the wrong sort makes
it malformed. -/
theorem failsIn_ofJson (foreign : family.isOwn = false) (record : Json) :
    FailsIn family (ofJson record) ↔ Strays family record := by
  refine failsIn_relabelled foreign (fun cause found => ?_) (fun wellSorted => ?_)
    (fun sorted => failsIn_ofRecord foreign sorted record) (fun strays => ?_)
  · exact ⟨_, by rw [ofJson, found], rfl⟩
  · unfold ofJson
    split
    case h_1 cause found => exact absurd found (wellSorted cause)
    case h_2 => rfl
  · rintro rfl
    exact absurd strays.family_mem (by decide)

end Constraint

/-! ## Stores -/

namespace Store

/-- The entity records of a document can all be filed, and give a store. -/
def EntitiesFiled (fields : List (Text × Json)) (store : Store Float) : Prop :=
  ∃ entities, (Json.optional "entities" (.arr []) fields).items = .ok entities ∧
    entities.foldlM readEntity {} = .ok store

/-- What strays in the document of a store: a list of records that has no items, or the first record
that cannot be filed. The entities come first. -/
inductive Strays (fields : List (Text × Json)) : ErrorFamily → Prop where
  | entities (unlisted : (Json.optional "entities" (.arr []) fields).hasItems = false) :
      Strays fields .sort
  | entity {family : ErrorFamily} {before after : List Json} {record : Json} {store : Store Float}
      (listed : (Json.optional "entities" (.arr []) fields).items = .ok (before ++ record :: after))
      (filed : before.foldlM readEntity {} = .ok store)
      (strays : Entity.Strays family record) : Strays fields family
  | constraints {store : Store Float} (entities : EntitiesFiled fields store)
      (unlisted : (Json.optional "constraints" (.arr []) fields).hasItems = false) :
      Strays fields .sort
  | constraint {family : ErrorFamily} {before after : List Json} {record : Json}
      {first store : Store Float}
      (entities : EntitiesFiled fields first)
      (listed : (Json.optional "constraints" (.arr []) fields).items =
        .ok (before ++ record :: after))
      (filed : before.foldlM readConstraint first = .ok store)
      (strays : Constraint.Strays family record) : Strays fields family

theorem failsIn_readEntity (foreign : family.isOwn = false) (store : Store Float) (record : Json) :
    FailsIn family (store.readEntity record) ↔ Entity.Strays family record := by
  simp only [readEntity, failsIn_bind, failsIn_pure, and_false, exists_false, or_false,
    Entity.failsIn_ofJson foreign]

/-- A reference to nothing is one of the sketch's own errors. -/
theorem failsIn_addConstraint (foreign : family.isOwn = false) (store : Store Float)
    (constraint : Constraint Float) : ¬ FailsIn family (store.addConstraint constraint) := by
  unfold addConstraint
  split
  · exact not_failsIn_own foreign rfl
  · exact id

theorem failsIn_readConstraint (foreign : family.isOwn = false) (store : Store Float)
    (record : Json) :
    FailsIn family (store.readConstraint record) ↔ Constraint.Strays family record := by
  simp only [readConstraint, failsIn_bind, failsIn_addConstraint foreign, and_false, exists_false,
    or_false, Constraint.failsIn_ofJson foreign]

theorem Strays.family_mem {fields : List (Text × Json)} (strays : Strays fields family) :
    family ∈ [.value, .overflow, .sort] := by
  cases strays with
  | entities | constraints => decide
  | entity _ _ strays => exact List.mem_append_left [.sort] strays.family_mem
  | constraint _ _ _ strays => exact List.mem_append_left [.sort] strays.family_mem

/-- **The document of a store strays where a list has no items, or at the first record that cannot
be filed.** -/
theorem failsIn_ofJson (foreign : family.isOwn = false) (fields : List (Text × Json)) :
    FailsIn family (ofJson (.obj fields)) ↔ Strays fields family := by
  simp only [ofJson, failsIn_bind, failsAs_foldlM, Json.failsIn_items, failsIn_readEntity foreign,
    failsIn_readConstraint foreign]
  constructor
  · rintro (⟨rfl, unlisted⟩ | ⟨items, listed, ⟨before, record, after, store, rfl, filed, strays⟩ |
      ⟨first, entities, ⟨rfl, unlisted⟩ |
        ⟨constraints, also, before, record, after, store, rfl, filed, strays⟩⟩⟩)
    · exact .entities unlisted
    · exact .entity listed filed strays
    · exact .constraints ⟨items, listed, entities⟩ unlisted
    · exact .constraint ⟨items, listed, entities⟩ also filed strays
  · rintro (unlisted | ⟨listed, filed, strays⟩ | ⟨⟨items, listed, entities⟩, unlisted⟩ |
      ⟨⟨items, listed, entities⟩, also, filed, strays⟩)
    · exact .inl ⟨rfl, unlisted⟩
    · exact .inr ⟨_, listed, .inl ⟨_, _, _, _, rfl, filed, strays⟩⟩
    · exact .inr ⟨items, listed, .inr ⟨_, entities, .inl ⟨rfl, unlisted⟩⟩⟩
    · exact .inr ⟨items, listed, .inr ⟨_, entities, .inr ⟨_, also, _, _, _, _, rfl, filed, strays⟩⟩⟩

/-- A text that is no document of a store is one of the sketch's own errors. -/
theorem failsIn_ofText (foreign : family.isOwn = false) (text : Text) :
    FailsIn family (ofText text) ↔
      ∃ fields, Json.parse text = .ok (.obj fields) ∧ Strays fields family := by
  rw [ofText]
  cases Json.parse text with
  | error fault => exact iff_of_false (not_failsIn_own foreign rfl) (by simp)
  | ok value =>
      cases value with
      | obj fields => simp [failsIn_ofJson foreign]
      | _ => exact iff_of_false (not_failsIn_own foreign rfl) (by simp)

end Store

end PlanarSketch
