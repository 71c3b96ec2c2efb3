import PlanarSketch.Proofs.Json.Value
import PlanarSketch.Proofs.Record.Restored
import PlanarSketch.Proofs.Session.Load
import PlanarSketch.Proofs.Session.Reachable

/-!
# Saving and opening again

A sketch that is written as text and opened again comes back with the same entities and constraints
in the same order and the same configuration; only what the last solve noted about the constraints
is gone (`Session.Reachable.openText_toText`). So writing it again gives the same text. A store on
its own is read back from its text in the same way.

A document can hold names and priorities of any kind, as long as no half of a pair stands before its
partner in a text, and no object has two fields of one name (`Store.Portable`). That the decimal
text of a double stands for it is taken as known, for the doubles in the document.
-/

set_option autoImplicit false

namespace PlanarSketch

/-! ## What is written can be read -/

/-- A store with names and priorities that a document can hold. -/
structure Store.Portable (store : Store Float) : Prop where
  entityNames : ∀ entity ∈ store.entities, entity.name.Unpaired
  constraintNames : ∀ constraint ∈ store.constraints, constraint.name.Unpaired
  priorities : ∀ constraint ∈ store.constraints, constraint.priority.Proper

theorem Text.unpaired_ofString (s : String) : (Text.ofString s).Unpaired :=
  Text.unpaired_ofChars s.toList

namespace Json

theorem fieldDoubles_append (first second : List (Text × Json)) :
    fieldDoubles (first ++ second) = fieldDoubles first ++ fieldDoubles second := by
  induction first with
  | nil => rfl
  | cons field rest ih => rw [List.cons_append, fieldDoubles, ih, fieldDoubles, List.append_assoc]

theorem properItems_of_forall {items : List Json} (each : ∀ item ∈ items, item.Proper) :
    ProperItems items := by
  induction items with
  | nil => trivial
  | cons item rest ih =>
      exact ⟨each item List.mem_cons_self,
        ih fun other member => each other (List.mem_cons_of_mem item member)⟩

end Json

theorem Entity.proper_toJson {entity : Entity Float} (name : entity.name.Unpaired) :
    entity.toJson.Proper := by
  have parameters : Json.ProperItems (entity.parameters.map .float) := by
    refine Json.properItems_of_forall ?_
    simp [Json.Proper]
  simp [toJson, Json.Proper, Json.ProperFields, Text.unpaired_ofString, name, parameters]

theorem Constraint.proper_toJson {constraint : Constraint Float} (name : constraint.name.Unpaired)
    (references : ∀ reference ∈ constraint.relation.refs, reference.Unpaired)
    (priority : constraint.priority.Proper) : constraint.toJson.Proper := by
  have listed : Json.ProperItems (constraint.relation.refs.map .str) := by
    refine Json.properItems_of_forall ?_
    simpa [Json.Proper] using references
  cases given : constraint.value <;>
    simp [toJson, given, Json.Proper, Json.ProperFields, Text.unpaired_ofString, name, listed,
      priority]

namespace Store

variable {store : Store Float}

theorem Portable.proper_toJson (portable : store.Portable) (sound : store.Sound) :
    Json.ProperItems (store.entities.map Entity.toJson) ∧
      Json.ProperItems (store.constraints.map Constraint.toJson) := by
  refine ⟨Json.properItems_of_forall ?_, Json.properItems_of_forall ?_⟩
  · simp only [List.forall_mem_map]
    exact fun entity member => Entity.proper_toJson (portable.entityNames entity member)
  · simp only [List.forall_mem_map]
    intro constraint member
    refine Constraint.proper_toJson (portable.constraintNames constraint member) ?_
      (portable.priorities constraint member)
    intro reference referred
    obtain ⟨entity, present, rfl⟩ :=
      List.mem_map.mp (sound.references constraint member reference referred)
    exact portable.entityNames entity present

end Store

theorem Number.proper_toJson (number : Number) : number.toJson.Proper := by
  cases number <;> trivial

theorem Config.proper_toJson (config : Config) : config.toJson.Proper := by
  have limit : ((config.maxRankDeficiency.map Number.toJson).getD .null).Proper := by
    cases config.maxRankDeficiency with
    | none => trivial
    | some limit => exact limit.proper_toJson
  simp [toJson, toFields, Json.Proper, Json.ProperFields, Text.unpaired_ofString,
    Number.proper_toJson, limit]

theorem Sketch.proper_toJson {sketch : Sketch} (portable : sketch.store.Portable)
    (sound : sketch.store.Sound) : sketch.toJson.Proper := by
  obtain ⟨entities, constraints⟩ := portable.proper_toJson sound
  simp [toJson, Store.toFields, Json.Proper, Json.ProperFields, Text.unpaired_ofString, entities,
    constraints, Config.proper_toJson]

theorem Store.Portable.proper_toJson_store {store : Store Float} (portable : store.Portable)
    (sound : store.Sound) : store.toJson.Proper := by
  obtain ⟨entities, constraints⟩ := portable.proper_toJson sound
  simp [Store.toJson, Store.toFields, Json.Proper, Json.ProperFields, Text.unpaired_ofString,
    entities, constraints]

/-! ## Opening what was written -/

/-- What was noted about constraints is not written. -/
theorem Store.toFields_unnoted (store : Store Float) : store.unnoted.toFields = store.toFields := by
  rw [toFields, toFields, unnoted, List.map_map]
  rfl

/-- A sound store is read back from its text, with nothing noted. -/
theorem Store.ofText_toText {store : Store Float} (sound : store.Sound) (portable : store.Portable)
    (decimals : ∀ x ∈ store.toJson.doubles, Decimal.ReadsBack x) :
    Store.ofText store.toText = .ok store.unnoted := by
  have read := Json.parse_pretty (portable.proper_toJson_store sound) decimals
  have restored := sound.ofJson_fields []
  rw [List.append_nil] at restored
  rw [ofText, toText, read]
  exact restored

namespace Session

/-- The text of a sketch is opened from any session. -/
theorem openText_of_settled {sketch : Sketch} (sound : sketch.store.Sound)
    (settled : sketch.config.Settled) (portable : sketch.store.Portable)
    (decimals : ∀ x ∈ sketch.toJson.doubles, Decimal.ReadsBack x) (session : Session) :
    ∃ after, (openText sketch.toText).perform session = (.ok (), after) ∧
      after.sketch = { store := sketch.store.unnoted, config := sketch.config } := by
  have parsed : Json.parse sketch.toText = .ok sketch.toJson :=
    Json.parse_pretty (Sketch.proper_toJson portable sound) decimals
  obtain ⟨own, written, version, configured⟩ :
      ∃ own, sketch.toJson = .obj (sketch.store.toFields ++ own) ∧
      Sketch.checkVersion (sketch.store.toFields ++ own) = .ok () ∧
      Sketch.readConfig (sketch.store.toFields ++ own) = .ok sketch.config := by
    refine ⟨_, rfl, ?_, ?_⟩
    · simp [Sketch.checkVersion, Json.optional, Store.toFields]
    · simp [Sketch.readConfig, Store.toFields, Config.toJson, Config.ofJson, settled.check_toFields]
  have listed : Sketch.textFields sketch.toText = .ok (sketch.store.toFields ++ own) := by
    rw [Sketch.textFields, parsed, written]
  have read : Sketch.ofText sketch.toText =
      .ok { store := sketch.store.unnoted, config := sketch.config } := by
    rw [Sketch.ofText, listed]
    simp [version, configured, sound.ofJson_fields own, bind, Except.bind, pure, Except.pure]
  obtain ⟨log, opened⟩ := (opens_openText sketch.toText session).1 _ read
  exact ⟨_, opened, rfl⟩

/-- **A sketch that is saved and opened again comes back with nothing noted, and is written as the
same text.** -/
theorem Reachable.openText_toText {session : Session} (reached : Reachable session)
    (portable : session.sketch.store.Portable)
    (decimals : ∀ x ∈ session.sketch.toJson.doubles, Decimal.ReadsBack x) :
    (∀ other : Session, ∃ after,
      Action.perform (openText session.sketch.toText) other = (.ok (), after) ∧
      after.sketch = { store := session.sketch.store.unnoted, config := session.sketch.config } ∧
      after.sketch.toText = session.sketch.toText) ∧
    ∃ store, Store.ofText session.sketch.store.toText = .ok store ∧
      store = session.sketch.store.unnoted ∧
      store.toText = session.sketch.store.toText := by
  have sameFields := Store.toFields_unnoted session.sketch.store
  refine ⟨?_, ?_⟩
  · intro other
    obtain ⟨after, opened, sketch⟩ :=
      openText_of_settled reached.sound reached.settled portable decimals other
    refine ⟨after, opened, sketch, ?_⟩
    rw [sketch, Sketch.toText, Sketch.toText, Sketch.toJson, Sketch.toJson, sameFields]
  · have inner : ∀ x ∈ session.sketch.store.toJson.doubles, Decimal.ReadsBack x := by
      intro x member
      refine decimals x ?_
      rw [Sketch.toJson, Json.doubles, Json.fieldDoubles_append]
      exact List.mem_append_left _ member
    refine ⟨_, Store.ofText_toText reached.sound portable inner, rfl, ?_⟩
    rw [Store.toText, Store.toText, Store.toJson, Store.toJson, sameFields]

/-- Two points at a distance with a whole tolerance, and a constraint on them whose name is a quote,
a half of a pair and a character beyond the basic plane, with a boundless tolerance and an undefined
number among its priority. -/
theorem openText_twoPoints :
    let session := afterAll [.addConstraint {
      name := .str ⟨[.char '"', .surrogate 5, .char (Char.ofNat 0x1f600)]⟩
      kind := .str "Distance"
      references := .ok [.str "B", .str "A"]
      value := .int 3
      tolerance := .str "inf"
      priority :=
        .obj [("", .arr [.null, .float Binary64.undefined, .int (-70)]), ("é", .bool true)] }]
      (twoPoints (.obj [("tolerance", .int 1), ("max_rank_deficiency", .bool true)]) 0.75)
    (∃ after, Action.perform (openText session.sketch.toText) {} = (.ok (), after) ∧
      after.sketch = { store := session.sketch.store.unnoted, config := session.sketch.config } ∧
      after.sketch.toText = session.sketch.toText) ∧
    ∃ store, Store.ofText session.sketch.store.toText = .ok store ∧
      store = session.sketch.store.unnoted ∧
      store.toText = session.sketch.store.toText := by
  intro session
  have reached : Reachable session := (reachable_twoPoints _ _).afterAll _
  have portable : session.sketch.store.Portable := by
    refine ⟨?_, ?_, ?_⟩ <;> decide +kernel
  have decimals : ∀ x ∈ session.sketch.toJson.doubles, Decimal.ReadsBack x := by decide +kernel
  have both := reached.openText_toText portable decimals
  exact ⟨both.1 {}, both.2⟩

end Session

end PlanarSketch
