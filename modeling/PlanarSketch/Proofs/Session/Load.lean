import PlanarSketch.Proofs.Config.Stray
import PlanarSketch.Proofs.Record.Stray
import PlanarSketch.Proofs.Session.Solve

/-!
# How opening a text fails

Opening a text reads a sketch from it, and changes nothing but the log when that fails
(`Session.perform_openText`). Reading fails in the sketch's own families, except where a part of the
document strays: a configuration that is no object, or one of its settings, and then the store
(`Sketch.Strays`).

Exactly these documents make reading a store, or opening a sketch, fail in another family
(`Session.load_strays_iff`).
-/

set_option autoImplicit false

namespace PlanarSketch

variable {family : ErrorFamily}

namespace Sketch

/-- The sketch that a text describes. -/
def ofText (text : Text) : Except (Error Float) Sketch := do
  let fields ← textFields text
  checkVersion fields
  let config ← readConfig fields
  let store ← Store.ofJson (.obj fields)
  return { store, config }

/-- What strays in the document of a sketch, once its version is in order: a configuration that is
no object, one of the settings, or the store. -/
inductive Strays (fields : List (Text × Json)) : ErrorFamily → Prop where
  | config {value : Json} (version : checkVersion fields = .ok ())
      (configured : Json.field? "config" fields = some value)
      (unlike : ∀ settings, value ≠ .obj settings) :
      Strays fields .operation
  | setting {family : ErrorFamily} {settings : List (Text × Json)}
      (version : checkVersion fields = .ok ())
      (configured : Json.field? "config" fields = some (.obj settings))
      (strays : Config.Strays settings family) :
      Strays fields family
  | store {family : ErrorFamily} {config : Config} (version : checkVersion fields = .ok ())
      (configured : readConfig fields = .ok config) (strays : Store.Strays fields family) :
      Strays fields family

/-- **What strays is one of four: a number that is none, or too large, a value of the wrong sort, or
a configuration without settings.** -/
theorem Strays.family_mem {fields : List (Text × Json)} (strays : Strays fields family) :
    family ∈ [.value, .overflow, .sort, .operation] := by
  cases strays with
  | config => decide
  | setting _ _ strays =>
      exact List.mem_cons_of_mem _ (List.mem_append_left [ErrorFamily.operation] strays.family_mem)
  | store _ _ strays => exact List.mem_append_left [.operation] strays.family_mem

theorem failsIn_checkVersion (foreign : family.isOwn = false) (fields : List (Text × Json)) :
    ¬ FailsIn family (checkVersion fields) := by
  unfold checkVersion
  split
  · split
    · exact not_failsIn_own foreign rfl
    · exact id
  · exact not_failsIn_own foreign rfl

theorem failsIn_readConfig (foreign : family.isOwn = false) (fields : List (Text × Json)) :
    FailsIn family (readConfig fields) ↔
      (∃ value, Json.field? "config" fields = some value ∧ (∀ settings, value ≠ .obj settings) ∧
        family = .operation) ∨
      ∃ settings, Json.field? "config" fields = some (.obj settings) ∧
        Config.Strays settings family := by
  unfold readConfig
  cases Json.field? "config" fields with
  | none => simp
  | some value =>
      cases value with
      | obj settings => simp [Config.ofJson, Config.failsIn_check foreign]
      | _ => simp [Config.ofJson, Error.family, eq_comm]

theorem failsIn_textFields (foreign : family.isOwn = false) (text : Text) :
    ¬ FailsIn family (textFields text) := by
  unfold textFields
  split
  · exact id
  · exact not_failsIn_own foreign rfl
  · exact not_failsIn_own foreign rfl

theorem textFields_eq_ok {text : Text} {fields : List (Text × Json)} :
    textFields text = .ok fields ↔ Json.parse text = .ok (.obj fields) := by
  rw [textFields]
  cases Json.parse text with
  | error fault => simp
  | ok value => cases value <;> simp

/-- **Reading a sketch strays with its configuration or its store.** -/
theorem failsIn_ofText (foreign : family.isOwn = false) (text : Text) :
    FailsIn family (ofText text) ↔ ∃ fields, Json.parse text = .ok (.obj fields) ∧
    Strays fields family := by
  simp only [ofText, failsIn_bind, failsIn_textFields foreign, textFields_eq_ok,
    failsIn_checkVersion foreign, failsIn_readConfig foreign, Store.failsIn_ofJson foreign,
    failsIn_pure, and_false, exists_false, or_false, false_or]
  refine exists_congr fun fields => and_congr_right fun _ => ?_
  constructor
  · rintro ⟨_, version, (⟨value, configured, unlike, rfl⟩ | ⟨settings, configured, strays⟩) |
      ⟨config, configured, strays⟩⟩
    · exact .config version configured unlike
    · exact .setting version configured strays
    · exact .store version configured strays
  · rintro (⟨version, configured, unlike⟩ | ⟨version, configured, strays⟩ |
      ⟨version, configured, strays⟩)
    · exact ⟨(), version, .inl (.inl ⟨_, configured, unlike, rfl⟩)⟩
    · exact ⟨(), version, .inl (.inr ⟨_, configured, strays⟩)⟩
    · exact ⟨(), version, .inr ⟨_, configured, strays⟩⟩

end Sketch

namespace Session

/-- An action puts the sketch that was read in the place of the one at work, and fails when none was
read. Apart from that it only writes to the log. -/
def Opens (action : Action Unit) (read : Except (Error Float) Sketch) : Prop :=
  ∀ session : Session,
    (∀ sketch, read = .ok sketch →
      ∃ log, action.perform session = (.ok (), { session with sketch, log })) ∧
    ∀ error, read = .error error →
      ∃ log, action.perform session = (.error error, { session with log })

theorem opens_lift {β : Type} {first : Except (Error Float) β} {action : β → Action Unit}
    {next : β → Except (Error Float) Sketch}
    (each : ∀ answer, Opens (action answer) (next answer)) :
    Opens (lift first >>= action) (first >>= next) := by
  intro session
  cases first with
  | ok answer =>
      rw [Action.perform_bind_ok (Action.perform_lift (.ok answer) session)]
      exact each answer session
  | error error =>
      rw [Action.perform_bind_error (Action.perform_lift (.error error) session)]
      refine ⟨fun _ read => (nomatch read), ?_⟩
      rintro _ ⟨⟩
      exact ⟨session.log, rfl⟩

theorem opens_announce {config : Config} {action : Action Unit} {read : Except (Error Float) Sketch}
    (opens : Opens action read) : Opens (announce config >>= fun _ => action) read := by
  intro session
  have announces : Logs (announce config) := logs_write _
  obtain ⟨log, announced⟩ := announces session
  rw [Action.perform_bind_ok announced]
  exact opens { session with log }

/-- **Opening a text is reading a sketch from it.** -/
theorem opens_openText (text : Text) : Opens (openText text) (Sketch.ofText text) := by
  refine opens_lift fun fields => opens_lift fun _ => opens_lift fun config =>
    opens_announce (opens_lift fun store => opens_announce fun session =>
      ⟨?_, fun _ failed => (nomatch failed)⟩)
  rintro _ ⟨⟩
  exact ⟨session.log, rfl⟩

theorem failsIn_openText (text : Text) (session : Session) :
    FailsIn family ((openText text).perform session).1 ↔ FailsIn family (Sketch.ofText text) := by
  obtain ⟨opened, failed⟩ := opens_openText text session
  cases read : Sketch.ofText text with
  | ok sketch =>
      obtain ⟨log, done⟩ := opened sketch read
      rw [done]
      exact Iff.rfl
  | error error =>
      obtain ⟨log, done⟩ := failed error read
      rw [done]
      exact Iff.rfl

/-- **Which texts make a load fail in a family that is not the sketch's own.** For a store they are
the documents of a store in which a list of records has no items, or a record has a number that is
no double where all before it is in order; for a sketch also those in which the configuration is no
object or has a setting that is no number. All other failures are the sketch's own, and none is in a
family beyond the four of `Sketch.Strays.family_mem`. -/
theorem load_strays_iff (foreign : family.isOwn = false) (text : Text) (session : Session) :
    (FailsIn family (Store.ofText text) ↔
      ∃ fields, Json.parse text = .ok (.obj fields) ∧ Store.Strays fields family) ∧
    (FailsIn family ((openText text).perform session).1 ↔
      ∃ fields, Json.parse text = .ok (.obj fields) ∧ Sketch.Strays fields family) :=
  ⟨Store.failsIn_ofText foreign text,
    (failsIn_openText text session).trans (Sketch.failsIn_ofText foreign text)⟩

/-- A store and a sketch whose list of entities is a number. -/
theorem load_unlisted_strays :
    let text : Text := "\x7b\"entities\": 5\x7d"
    (∃ fields, Json.parse text = .ok (.obj fields) ∧ Store.Strays fields .sort) ∧
      ∃ fields, Json.parse text = .ok (.obj fields) ∧ Sketch.Strays fields .sort := by
  intro text
  have both := @load_strays_iff .sort rfl text {}
  exact ⟨both.1.mp (by decide +kernel), both.2.mp (by decide +kernel)⟩

/-- A document with a point one of whose parameters is given by a text that writes no number. -/
def wordy : Text :=
  "\x7b\"entities\": [\x7b\"id\": \"A\", \"type\": \"point\", \"parameters\": [\"x\", 0]\x7d]\x7d"

/-- The text of a parameter that writes no number is an error of its own, and not of a malformed
record. -/
theorem load_wordy_strays :
    (∃ error, Store.ofText wordy = .error error ∧ error.family.isOwn = false ∧
      error.message = "could not convert string to float: 'x'") ∧
    ∃ error, ((openText wordy).perform {}).1 = .error error ∧ error.family.isOwn = false ∧
      error.message = "could not convert string to float: 'x'" := by
  constructor
  · exact failsAs_iff.mp (by decide +kernel)
  · exact failsAs_iff.mp (by decide +kernel)

end Session

end PlanarSketch
