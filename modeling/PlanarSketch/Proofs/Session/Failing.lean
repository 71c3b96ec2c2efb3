import PlanarSketch.Proofs.Config.Bounds
import PlanarSketch.Proofs.Session.Counters
import PlanarSketch.Proofs.Session.Removal

/-!
# What failing operations leave alone

An operation checks everything before it changes anything: what can fail in it comes before the
first change of the store or of the configuration, and nothing fails after that. So an operation
that fails leaves both as they were, whatever it was given; only a number drawn for a name stays
drawn, and a log line stays written (`Session.Operation.keepsFailing`).

A solve is different. It writes parameters back one entity after the other, and when one of them is
refused, those before it are written.

Putting a configuration to use is not checked and never fails (`Session.configure_overdamped`).
Those that are built from records were checked as a whole before. So the configuration of a
reachable session is within its bounds (`Session.unaltered_of_error`).
-/

set_option autoImplicit false

namespace PlanarSketch

namespace Session

open PlanarSketch.Action

/-- A session after which only numbers of names were drawn and log lines written. -/
structure Unaltered (before after : Session) : Prop where
  store : after.sketch.store = before.sketch.store
  config : after.sketch.config = before.sketch.config
  verbose : after.verbose = before.verbose
  formulas : after.formulas = before.formulas

theorem Unaltered.refl (session : Session) : session.Unaltered session := ⟨rfl, rfl, rfl, rfl⟩

namespace Unaltered

variable {before : Session}

/-! ## Parts of operations that alter nothing -/

theorem keeps_store : Keeps before.Unaltered Session.store fun _ => True :=
  keeps_bind keeps_get fun _ _ => keeps_pure trivial

theorem keeps_lift {β : Type} (result : Except (Error Float) β) :
    Keeps before.Unaltered (lift result) fun _ => True := Action.keeps_lift fun _ _ => trivial

theorem keeps_write (line : LogLine) : Keeps before.Unaltered (write line) fun _ => True := by
  refine keeps_modify fun session same => ?_
  split
  · exact same
  · exact ⟨same.store, same.config, same.verbose, same.formulas⟩

theorem keeps_freshName (stem : Text) : Keeps before.Unaltered (freshName stem) fun _ => True := by
  refine keeps_bind keeps_get fun session _ => ?_
  refine keeps_bind (keeps_modify fun session same => ?_) fun _ _ => keeps_pure trivial
  exact ⟨same.store, same.config, same.verbose, same.formulas⟩

theorem keeps_nameOr (wanted : Json) (stem : Text) :
    Keeps before.Unaltered (nameOr wanted stem) fun _ => True := by
  rw [nameOr]
  split
  · exact keeps_pure trivial
  · exact keeps_bind (keeps_freshName stem) fun _ _ => keeps_pure trivial

end Unaltered

/-! ## Parts of operations that never fail -/

theorem succeeds_store : Succeeds store := succeeds_bind succeeds_get fun _ => succeeds_pure _

theorem succeeds_setStore (store : Store Float) : Succeeds (setStore store) := succeeds_modify _

theorem succeeds_setConfig (config : Config) : Succeeds (setConfig config) := succeeds_modify _

theorem succeeds_write (line : LogLine) : Succeeds (write line) := succeeds_modify _

theorem succeeds_addEntity (entity : Entity Float) : Succeeds (addEntity entity) :=
  succeeds_bind succeeds_store fun _ => succeeds_setStore _

theorem succeeds_removeEntity (name : Text) : Succeeds (removeEntity name) := by
  intro session
  obtain ⟨log, performed⟩ := perform_removeEntity name session
  exact ⟨_, _, performed⟩

theorem succeeds_removeConstraint (name : Text) : Succeeds (removeConstraint name) :=
  succeeds_bind succeeds_store fun _ => succeeds_bind (succeeds_setStore _) fun _ => succeeds_pure _

theorem succeeds_remove (name : Text) : Succeeds (remove name) := by
  intro session
  rw [perform_remove]
  split
  · exact succeeds_removeEntity name session
  · exact succeeds_removeConstraint name session

/-! ## Operations that check before they change -/

variable {before : Session}

/-- A change that follows a check is not made when the check fails. -/
theorem keepsFailing_checked {β γ : Type} (result : Except (Error Float) β) {next : β → Action γ}
    (later : ∀ answer, Succeeds (next answer)) :
    KeepsFailing before.Unaltered (lift result >>= next) :=
  keepsFailing_bind_of_succeeds (keepsFailing_of_keeps (Unaltered.keeps_lift result)) later

theorem keepsFailing_openFields (fields : List (Text × Json)) :
    KeepsFailing before.Unaltered (openFields fields) := by
  refine keepsFailing_bind (Unaltered.keeps_lift _) fun _ => ?_
  refine keepsFailing_bind (Unaltered.keeps_lift _) fun config => ?_
  refine keepsFailing_bind (Unaltered.keeps_write _) fun _ => ?_
  refine keepsFailing_checked _ fun store => ?_
  exact succeeds_bind (succeeds_write _) fun _ => succeeds_modify _

theorem keepsFailing_openText (text : Text) : KeepsFailing before.Unaltered (openText text) :=
  keepsFailing_bind (Unaltered.keeps_lift _) keepsFailing_openFields

theorem keepsFailing_saveAndOpen (place : Text) :
    KeepsFailing before.Unaltered (saveAndOpen place) := by
  refine keepsFailing_bind keeps_get fun session => ?_
  refine keepsFailing_bind (Unaltered.keeps_write _) fun _ => ?_
  refine keepsFailing_bind_of_succeeds (keepsFailing_openText _) fun _ => ?_
  refine succeeds_bind succeeds_store fun _ => ?_
  exact succeeds_bind (succeeds_write _) fun _ => succeeds_pure _

theorem keepsFailing_addShape (kind : ShapeKind) (parameters : List Json) (fixed name : Json) :
    KeepsFailing before.Unaltered (addShape kind parameters fixed name) := by
  refine keepsFailing_bind (Unaltered.keeps_nameOr name kind.stem) fun name => ?_
  refine keepsFailing_checked _ fun entity => ?_
  exact succeeds_bind (succeeds_addEntity entity) fun _ => succeeds_pure _

theorem keepsFailing_addConstraint (constraint : Constraint Float) :
    KeepsFailing before.Unaltered (addConstraint constraint) :=
  keepsFailing_bind Unaltered.keeps_store fun _ => keepsFailing_checked _ fun _ =>
    succeeds_setStore _

theorem keepsFailing_updateEntity (name : Text) (parameters : Json) :
    KeepsFailing before.Unaltered (updateEntity name parameters) := by
  refine keepsFailing_bind Unaltered.keeps_store fun _ => ?_
  refine keepsFailing_checked _ fun answer => ?_
  exact succeeds_bind (succeeds_setStore _) fun _ => succeeds_pure _

/-- Finding out which name a value is changes nothing. -/
theorem keepsFailing_toName? {β : Type} {key : Json} {next : Option Text → Action β}
    (named : ∀ name, KeepsFailing before.Unaltered (next (some name)))
    (unnamed : KeepsFailing before.Unaltered (next none)) :
    KeepsFailing before.Unaltered (lift key.toName? >>= next) := by
  refine keepsFailing_bind (Unaltered.keeps_lift _) fun name => ?_
  cases name with
  | some name => exact named name
  | none => exact unnamed

/-- The operations that solve. -/
def Operation.solves : Operation → Bool
  | solve _ _ => true
  | _ => false

/-- **Every operation but a solve leaves the session unaltered when it fails.** -/
theorem Operation.keepsFailing {operation : Operation} (edits : operation.solves = false) :
    KeepsFailing before.Unaltered operation.action := by
  -- In each case: what comes before the last check alters nothing, and what comes after it never
  -- fails.
  cases operation with
  | begin config =>
      refine keepsFailing_checked _ fun config => ?_
      exact succeeds_bind (succeeds_modify _) fun _ => succeeds_write _
  | openDocument document =>
      exact keepsFailing_bind (Unaltered.keeps_lift _) keepsFailing_openFields
  | openText text => exact keepsFailing_openText text
  | saveAndOpen place => exact keepsFailing_discard (keepsFailing_saveAndOpen place)
  | addShape kind parameters fixed name =>
      exact keepsFailing_discard (keepsFailing_addShape kind parameters fixed name)
  | addFigure figure fixed name =>
      exact keepsFailing_discard (keepsFailing_bind (Unaltered.keeps_lift _)
        fun parameters => keepsFailing_addShape figure.kind parameters fixed name)
  | addEntity name kind parameters fixed => exact keepsFailing_checked _ succeeds_addEntity
  | addEntityRecord record => exact keepsFailing_checked _ succeeds_addEntity
  | updateEntity key parameters =>
      refine keepsFailing_discard (keepsFailing_toName? (fun name => ?_) ?_)
      · exact keepsFailing_updateEntity name parameters
      · exact keepsFailing_throw _
  | removeEntity key =>
      refine keepsFailing_discard (keepsFailing_bind Unaltered.keeps_store fun store => ?_)
      split
      · exact keepsFailing_of_succeeds (succeeds_pure _)
      · exact keepsFailing_toName?
          (fun name => keepsFailing_of_succeeds (succeeds_removeEntity name))
          (keepsFailing_of_succeeds (succeeds_pure _))
  | removeConstraint key =>
      refine keepsFailing_discard (keepsFailing_bind Unaltered.keeps_store fun store => ?_)
      split
      · exact keepsFailing_of_succeeds (succeeds_pure _)
      · exact keepsFailing_toName?
          (fun name => keepsFailing_of_succeeds (succeeds_removeConstraint name))
          (keepsFailing_of_succeeds (succeeds_pure _))
  | remove key =>
      exact keepsFailing_discard (keepsFailing_toName?
        (fun name => keepsFailing_of_succeeds (succeeds_remove name))
        (keepsFailing_of_succeeds (succeeds_pure _)))
  | clear => exact keepsFailing_of_succeeds (succeeds_setStore _)
  | constrain kind references value tolerance name =>
      refine keepsFailing_discard ?_
      refine keepsFailing_bind (Unaltered.keeps_nameOr name kind.stem) fun name => ?_
      refine keepsFailing_bind (Unaltered.keeps_lift _) fun constraint => ?_
      exact keepsFailing_bind_of_succeeds (keepsFailing_addConstraint constraint)
        fun _ => succeeds_pure _
  | addConstraint parts =>
      exact keepsFailing_bind (Unaltered.keeps_lift _) keepsFailing_addConstraint
  | addConstraintRecord record =>
      exact keepsFailing_bind (Unaltered.keeps_lift _) keepsFailing_addConstraint
  | configure record => exact keepsFailing_checked _ succeeds_setConfig
  | changeSetting name value =>
      exact keepsFailing_bind keeps_get fun _ => keepsFailing_checked _ succeeds_setConfig
  | setVerbose verbose => exact keepsFailing_of_succeeds (succeeds_modify _)
  | register formulas => exact keepsFailing_of_succeeds (succeeds_modify _)
  | solve record polls => cases edits

/-- **Failing changes nothing.** An operation other than a solve that fails leaves the store and the
configuration as they were, from whatever session. Putting a configuration to use never fails, not
even with settings out of their bounds. The operations build their configurations from records, so
that of a reachable session is within its bounds. -/
theorem unaltered_of_error (session : Session) :
    (∀ operation : Operation, operation.solves = false → ∀ error after,
      perform operation.action session = (.error error, after) → session.Unaltered after) ∧
    (∀ config : Config, perform (configure config) session =
      (.ok (), { session with sketch := { session.sketch with config } })) ∧
    (∀ config : Option Config, ∃ log, perform (begin config) session =
      (.ok (), { session with sketch := { config := config.getD {} }, log })) ∧
    (Reachable session → session.sketch.config.Bounded) := by
  refine ⟨fun _ edits error after failed => ?_, fun _ => rfl, fun config => ?_, fun reached => ?_⟩
  · exact Operation.keepsFailing edits session (.refl session) error after failed
  · exact perform_begin config session
  · exact reached.settled.bounded

/-- Operations that two points at a distance refuse: shapes with too few parameters or infinite
ones, one of them under a name that is taken, figures whose points have too many coordinates or
none, a kind that there is not, a parameter that is no number, relations on what is not there or on
too few points, and settings out of their bounds or of the wrong sort. -/
def refused : List Operation := [
  .addShape .point [.float 0.0] (.bool false) (.str "B"),
  .addShape .circle [.float 0.0, .float 0.0, .float (1.0 / 0.0)] (.bool false) .null,
  .addFigure (.line (.arr [.int 0, .int 0, .int 1]) (.arr [.int 1, .int 1])) (.bool false) .null,
  .addFigure (.circle (.int 0) (.int 1)) (.bool false) (.str "B"),
  .addEntity (.str "A") (.str "ellipse") (.ok []) (.bool true),
  .updateEntity (.str "B") (.arr [.int 1, .null]),
  .updateEntity (.arr []) (.arr [.int 1, .int 2]),
  .constrain .horizontal [.str "L"] .null Constraint.defaultTolerance (.str "d"),
  .constrain .distance [.str "A"] (.float 1.0) Constraint.defaultTolerance .null,
  .addConstraintRecord (.obj [("id", .str "d"), ("type", .str "distance")]),
  .changeSetting "damping_factor" (.float 2.0),
  .changeSetting "max_iterations" (.bool true),
  .changeSetting "tolerance" (.str "small")]

/-- Each of these fails, and two points at a distance are as before. -/
theorem unaltered_twoPoints :
    let session := twoPoints (.obj []) 0.75
    session.sketch.config.Bounded ∧
      ∀ operation ∈ refused, operation.solves = false ∧ ∃ error after,
        perform operation.action session = (.error error, after) ∧ session.Unaltered after := by
  intro session
  obtain ⟨unaltered, _, _, bounded⟩ := unaltered_of_error session
  have fails : refused.all fun operation =>
      !operation.solves && !(perform operation.action session).1.isOk := by decide +kernel
  refine ⟨bounded (reachable_twoPoints (.obj []) 0.75), fun operation member => ?_⟩
  have edits_fails := List.all_eq_true.mp fails operation member
  rw [Bool.and_eq_true_iff, Bool.not_eq_true', Bool.not_eq_true'] at edits_fails
  obtain ⟨edits, refuses⟩ := edits_fails
  refine ⟨edits, ?_⟩
  rcases failed : perform operation.action session with ⟨error | answer, after⟩
  · exact ⟨error, after, rfl, unaltered operation edits error after failed⟩
  · rw [failed] at refuses
    cases refuses

/-- A configuration with a damping factor that is out of its bounds. -/
def overdamped : Config := { dampingFactor := .double 2.0 }

/-- **A configuration that was never checked is put to use all the same**, though no record of it
would be read. And something does change when a point is refused: the number that was drawn for its
name is passed over. -/
theorem configure_overdamped :
    (∃ after, perform (configure overdamped) {} = (.ok (), after) ∧ ¬ after.sketch.config.Bounded) ∧
    (Config.ofJson overdamped.toJson).isOk = false ∧
    ({} : Session).nextName "Point" = "Point1" ∧
    ∃ error after,
      perform (addShape .point [.str "x", .int 0] (.bool false) .null) {} = (.error error, after) ∧
        after.nextName "Point" = "Point2" := by
  refine ⟨⟨_, rfl, fun bounded => ?_⟩, by decide +kernel, by decide +kernel, _, _, rfl,
    by decide +kernel⟩
  obtain ⟨x, worth, _, below⟩ := bounded.dampingFactor
  have most : overdamped.dampingFactor.isAtMostOne = true :=
    Number.isAtMostOne_iff.mpr ⟨x, worth, below⟩
  have above : overdamped.dampingFactor.isAtMostOne = false := by decide +kernel
  rw [above] at most
  cases most

end Session

end PlanarSketch
