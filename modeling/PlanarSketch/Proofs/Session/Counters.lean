import PlanarSketch.Proofs.Session.Reachable

/-!
# The numbers last used in a session

A record that is added without a name draws the next name with the stem of its kind
(`Session.nextName`), and the number of that name is noted. Nothing else touches the numbers: an
operation that draws a name notes its number, and no other (`Session.Operation.counters_of_stem?`),
opening another sketch starts the numbers anew (`Session.Operation.restartsNumbers`), and every
other operation leaves them as they are (`Session.Reachable.counters_of_stem?_eq_none`). It is the
same when an operation fails, except that a sketch which cannot be opened leaves the one at work
with its numbers.
-/

set_option autoImplicit false

namespace PlanarSketch

namespace Session

open PlanarSketch.Action

/-! ## Drawing a name -/

/-- The next name with a stem. -/
def nextName (session : Session) (stem : Text) : Text :=
  Sketch.numberedName stem (session.sketch.nextNumber stem)

/-- The session once the next name with a stem is drawn. -/
def drawing (session : Session) (stem : Text) : Session :=
  { session with sketch := session.sketch.setNumber stem (session.sketch.nextNumber stem) }

variable {session : Session} {wanted : Json}

theorem perform_freshName (stem : Text) (session : Session) :
    perform (freshName stem) session = (.ok (session.nextName stem), session.drawing stem) := rfl

theorem perform_nameOr_unnamed (unnamed : wanted.truthy = false) (stem : Text) (session : Session) :
    perform (nameOr wanted stem) session =
      (.ok (.str (session.nextName stem)), session.drawing stem) := by
  rw [nameOr, if_neg (Bool.eq_false_iff.mp unnamed),
    perform_bind_ok (perform_freshName stem session)]
  rfl

/-! ## Which operations draw names -/

/-- The stem an operation draws a name with, if it draws one. -/
def Operation.stem? : Operation → Option Text
  | addShape kind _ _ name => if name.truthy then none else some kind.stem
  | addFigure figure _ name =>
    if figure.items.isOk && !name.truthy then some figure.kind.stem else none
  | constrain kind _ _ _ name => if name.truthy then none else some kind.stem
  | _ => none

/-- An operation that draws a name adds a shape, a figure or a relation that came without one. -/
theorem Operation.cases_of_stem? {operation : Operation} {stem : Text}
    (draws : operation.stem? = some stem) :
    (∃ kind parameters fixed name, operation = addShape kind parameters fixed name ∧
      name.truthy = false ∧ stem = kind.stem) ∨
    (∃ figure parameters fixed name, operation = addFigure figure fixed name ∧
      figure.items = .ok parameters ∧ name.truthy = false ∧ stem = figure.kind.stem) ∨
    (∃ kind references value tolerance name,
      operation = constrain kind references value tolerance name ∧
      name.truthy = false ∧ stem = kind.stem) := by
  cases operation with
  | addShape kind parameters fixed name =>
      obtain ⟨unnamed, rfl⟩ : name.truthy = false ∧ kind.stem = stem := by simpa [stem?] using draws
      exact .inl ⟨kind, parameters, fixed, name, rfl, unnamed, rfl⟩
  | addFigure figure fixed name =>
      rcases taken : figure.items with error | parameters
      · simp [stem?, taken, Except.isOk, Except.toBool] at draws
      · obtain ⟨unnamed, rfl⟩ : name.truthy = false ∧ figure.kind.stem = stem := by
          simpa [stem?, taken, Except.isOk, Except.toBool] using draws
        exact .inr (.inl ⟨figure, parameters, fixed, name, rfl, taken, unnamed, rfl⟩)
  | constrain kind references value tolerance name =>
      obtain ⟨unnamed, rfl⟩ : name.truthy = false ∧ kind.stem = stem := by simpa [stem?] using draws
      exact .inr (.inr ⟨kind, references, value, tolerance, name, rfl, unnamed, rfl⟩)
  | _ => cases draws

/-- The operations that put another sketch in the place of the one at work. -/
def Operation.opens : Operation → Bool
  | begin _ | openDocument _ | openText _ | saveAndOpen _ => true
  | _ => false

/-- An action that leaves the numbers as they are, whether it fails or not. -/
def LeavesNumbers {β : Type} (action : Action β) : Prop :=
  ∀ session, (perform action session).2.sketch.counters = session.sketch.counters

section LeavesNumbers

variable {β γ : Type}

theorem leavesNumbers_bind {first : Action β} {next : β → Action γ} (here : LeavesNumbers first)
    (later : ∀ answer, LeavesNumbers (next answer)) : LeavesNumbers (first >>= next) := by
  intro session
  have same := here session
  rw [perform_bind]
  rcases done : perform first session with ⟨_ | answer, between⟩ <;> rw [done] at same
  · exact same
  · exact (later answer between).trans same

theorem leavesNumbers_lift (result : Except (Error Float) β) : LeavesNumbers (lift result) :=
  fun _ => rfl

theorem leavesNumbers_pure (answer : β) : LeavesNumbers (pure answer) := fun _ => rfl

theorem leavesNumbers_store : LeavesNumbers store := fun _ => rfl

theorem leavesNumbers_setStore (store : Store Float) : LeavesNumbers (setStore store) :=
  fun _ => rfl

theorem leavesNumbers_setConfig (config : Config) : LeavesNumbers (setConfig config) := fun _ => rfl

theorem leavesNumbers_of_logs {action : Action Unit} (logs : Logs action) :
    LeavesNumbers action := by
  intro session
  obtain ⟨log, done⟩ := logs session
  rw [done]

theorem leavesNumbers_addEntity (entity : Entity Float) : LeavesNumbers (addEntity entity) :=
  fun _ => rfl

theorem leavesNumbers_addConstraint (constraint : Constraint Float) :
    LeavesNumbers (addConstraint constraint) :=
  leavesNumbers_bind leavesNumbers_store fun _ =>
    leavesNumbers_bind (leavesNumbers_lift _) leavesNumbers_setStore

/-- An entity that is made and added under a name changes no numbers. -/
theorem leavesNumbers_fileEntity (made : Except (Error Float) (Entity Float)) (name : Json) :
    LeavesNumbers (do addEntity (← lift made); return name) :=
  leavesNumbers_bind (leavesNumbers_lift made) fun entity =>
    leavesNumbers_bind (leavesNumbers_addEntity entity) fun _ => leavesNumbers_pure name

/-- A constraint that is made and added under a name changes no numbers. -/
theorem leavesNumbers_fileConstraint (made : Except (Error Float) (Constraint Float))
    (name : Json) :
    LeavesNumbers (do addConstraint (← lift made); return name) :=
  leavesNumbers_bind (leavesNumbers_lift made) fun constraint =>
    leavesNumbers_bind (leavesNumbers_addConstraint constraint) fun _ => leavesNumbers_pure name

theorem leavesNumbers_updateEntity (name : Text) (parameters : Json) :
    LeavesNumbers (updateEntity name parameters) :=
  leavesNumbers_bind leavesNumbers_store fun _ => leavesNumbers_bind (leavesNumbers_lift _) fun _ =>
    leavesNumbers_bind (leavesNumbers_setStore _) fun _ => leavesNumbers_pure _

theorem leavesNumbers_removeEntity (name : Text) : LeavesNumbers (removeEntity name) := by
  intro session
  obtain ⟨log, performed⟩ := perform_removeEntity name session
  rw [performed]

theorem leavesNumbers_removeConstraint (name : Text) : LeavesNumbers (removeConstraint name) :=
  fun _ => rfl

theorem leavesNumbers_remove (name : Text) : LeavesNumbers (remove name) := by
  intro session
  rw [perform_remove]
  split
  · exact leavesNumbers_removeEntity name session
  · exact leavesNumbers_removeConstraint name session

theorem leavesNumbers_nameOr {wanted : Json} (named : wanted.truthy = true) (stem : Text) :
    LeavesNumbers (nameOr wanted stem) := by
  rw [nameOr, if_pos named]
  exact leavesNumbers_pure wanted

theorem leavesNumbers_addShape {name : Json} (named : name.truthy = true) (kind : ShapeKind)
    (parameters : List Json) (fixed : Json) : LeavesNumbers (addShape kind parameters fixed name) :=
  leavesNumbers_bind (leavesNumbers_nameOr named kind.stem) fun _ => leavesNumbers_fileEntity _ _

/-- Finding out which name a value is changes no numbers. -/
theorem leavesNumbers_toName? {key : Json} {next : Option Text → Action β}
    (named : ∀ name, LeavesNumbers (next (some name))) (unnamed : LeavesNumbers (next none)) :
    LeavesNumbers (lift key.toName? >>= next) := by
  refine leavesNumbers_bind (leavesNumbers_lift _) fun name => ?_
  cases name with
  | some name => exact named name
  | none => exact unnamed

theorem counters_discard (action : Action β) (session : Session) :
    (perform (action >>= fun _ => pure ()) session).2.sketch.counters =
      (perform action session).2.sketch.counters := by
  rw [perform_bind]
  rcases perform action session with ⟨_ | _, _⟩ <;> rfl

theorem leavesNumbers_discard {action : Action β} (leaves : LeavesNumbers action) :
    LeavesNumbers (action >>= fun _ => pure ()) :=
  fun session => (counters_discard action session).trans (leaves session)

theorem leavesNumbers_throw (error : Error Float) : LeavesNumbers (throw error : Action β) :=
  fun _ => rfl

end LeavesNumbers

/-- An action that starts the numbers anew, or fails and leaves them as they are. -/
def RestartsNumbers {β : Type} (action : Action β) : Prop :=
  ∀ session, (perform action session).2.sketch.counters =
    if (perform action session).1.isOk then [] else session.sketch.counters

section RestartsNumbers

variable {β γ : Type}

theorem restartsNumbers_bind {first : Action β} {next : β → Action γ} (here : LeavesNumbers first)
    (later : ∀ answer, RestartsNumbers (next answer)) : RestartsNumbers (first >>= next) := by
  intro session
  have same := here session
  rw [perform_bind]
  rcases done : perform first session with ⟨_ | answer, between⟩ <;> rw [done] at same
  · exact same
  · dsimp only
    rw [← same]
    exact later answer between

/-- Writing to the log afterwards changes nothing about the numbers. -/
theorem restartsNumbers_logs {first : Action β} {next : β → Action γ} (here : RestartsNumbers first)
    (later : ∀ answer session, ∃ reply log,
      perform (next answer) session = (.ok reply, { session with log })) :
    RestartsNumbers (first >>= next) := by
  intro session
  have restarts := here session
  rw [perform_bind]
  rcases done : perform first session with ⟨_ | answer, between⟩ <;> rw [done] at restarts
  · exact restarts
  · obtain ⟨reply, log, quiet⟩ := later answer between
    simp only [quiet]
    exact restarts

theorem restartsNumbers_openFields (fields : List (Text × Json)) :
    RestartsNumbers (openFields fields) := by
  refine restartsNumbers_bind (leavesNumbers_lift _) fun _ => ?_
  refine restartsNumbers_bind (leavesNumbers_lift _) fun config => ?_
  refine restartsNumbers_bind (leavesNumbers_of_logs (logs_write _)) fun _ => ?_
  refine restartsNumbers_bind (leavesNumbers_lift _) fun store => ?_
  exact restartsNumbers_bind (leavesNumbers_of_logs (logs_write _)) fun _ _ => rfl

theorem restartsNumbers_openText (text : Text) : RestartsNumbers (openText text) :=
  restartsNumbers_bind (leavesNumbers_lift _) restartsNumbers_openFields

theorem restartsNumbers_saveAndOpen (place : Text) : RestartsNumbers (saveAndOpen place) := by
  refine restartsNumbers_bind (fun _ => rfl) fun session => ?_
  refine restartsNumbers_bind (leavesNumbers_of_logs (logs_write _)) fun _ => ?_
  refine restartsNumbers_logs (restartsNumbers_openText _) fun _ between => ?_
  obtain ⟨log, written⟩ := logs_write
    ⟨.info, Text.concat ["Loaded ", recordCounts between.sketch.store, " from ", place]⟩ between
  refine ⟨session.sketch.toText, log, ?_⟩
  rw [perform_bind_ok (perform_store between), perform_bind_ok written]
  rfl

theorem restartsNumbers_begin (config : Option Config) : RestartsNumbers (begin config) := by
  intro session
  obtain ⟨log, performed⟩ := perform_begin config session
  rw [performed]
  rfl

end RestartsNumbers

theorem Operation.restartsNumbers {operation : Operation} (opens : operation.opens = true) :
    RestartsNumbers operation.action := by
  cases operation with
  | begin config => exact restartsNumbers_bind (leavesNumbers_lift _) restartsNumbers_begin
  | openDocument document =>
      exact restartsNumbers_bind (leavesNumbers_lift _) restartsNumbers_openFields
  | openText text => exact restartsNumbers_openText text
  | saveAndOpen place =>
      exact restartsNumbers_logs (restartsNumbers_saveAndOpen place) fun _ session =>
        ⟨(), session.log, rfl⟩
  | _ => cases opens

/-- An operation that draws a name notes its number, and no other, whether it fails or not. -/
theorem Operation.counters_of_stem? {operation : Operation} {stem : Text}
    (draws : operation.stem? = some stem) (session : Session) :
    (perform operation.action session).2.sketch.counters =
      (session.drawing stem).sketch.counters := by
  have draw {wanted : Json} {stem : Text} (unnamed : wanted.truthy = false)
    {next : Json → Action Json}
      (leaves : ∀ name, LeavesNumbers (next name)) :
      (perform (nameOr wanted stem >>= next >>= fun _ => pure ()) session).2.sketch.counters =
        (session.drawing stem).sketch.counters := by
    rw [bind_assoc, perform_bind_ok (perform_nameOr_unnamed unnamed stem session)]
    exact leavesNumbers_bind (leaves _) (fun _ => leavesNumbers_pure _) _
  rcases Operation.cases_of_stem? draws with
    ⟨_, _, _, _, rfl, unnamed, rfl⟩ | ⟨_, parameters, _, _, rfl, taken, unnamed, rfl⟩ |
    ⟨_, _, _, _, _, rfl, unnamed, rfl⟩
  · exact draw unnamed fun _ => leavesNumbers_fileEntity _ _
  · rw [Operation.action, addFigure_of_items taken]
    exact draw unnamed fun _ => leavesNumbers_fileEntity _ _
  · exact draw unnamed fun _ => leavesNumbers_fileConstraint _ _

/-- Solving leaves the numbers as they are, whatever its end. -/
theorem Reachable.counters_solve (reached : Reachable session) (config : Config)
    (polls : Nat → Bool) :
    (perform (solve config polls) session).2.sketch.counters = session.sketch.counters := by
  obtain ⟨_, _, _, _, _, performed⟩ := reached.perform_solve config polls
  rw [performed]
  split <;> rfl

/-- Any other operation leaves the numbers as they are, whether it fails or not. -/
theorem Reachable.counters_of_stem?_eq_none (reached : Reachable session) {operation : Operation}
    (stays : operation.opens = false) (unnamed : operation.stem? = none) :
    (perform operation.action session).2.sketch.counters = session.sketch.counters := by
  cases operation with
  | begin | openDocument | openText | saveAndOpen => cases stays
  | addShape kind parameters fixed name =>
      have named : name.truthy = true := by simpa [Operation.stem?] using unnamed
      exact leavesNumbers_discard (leavesNumbers_addShape named kind parameters fixed) session
  | addFigure figure fixed name =>
      rcases taken : figure.items with error | parameters
      · rw [Operation.action, perform_bind_error (perform_addFigure_error taken fixed name session)]
      · have named : name.truthy = true := by
          simpa [Operation.stem?, taken, Except.isOk, Except.toBool] using unnamed
        rw [Operation.action, addFigure_of_items taken]
        exact leavesNumbers_discard (leavesNumbers_addShape named figure.kind parameters fixed)
          session
  | constrain kind references value tolerance name =>
      have named : name.truthy = true := by simpa [Operation.stem?] using unnamed
      exact leavesNumbers_discard (leavesNumbers_bind (leavesNumbers_nameOr named kind.stem)
        fun _ => leavesNumbers_fileConstraint _ _) session
  | addEntity name kind parameters fixed =>
      exact leavesNumbers_bind (leavesNumbers_lift _) leavesNumbers_addEntity session
  | addEntityRecord record =>
      exact leavesNumbers_bind (leavesNumbers_lift _) leavesNumbers_addEntity session
  | updateEntity key parameters =>
      exact leavesNumbers_discard (leavesNumbers_toName?
        (fun name => leavesNumbers_updateEntity name parameters) (leavesNumbers_throw _)) session
  | removeEntity key =>
      refine leavesNumbers_discard (leavesNumbers_bind leavesNumbers_store fun store => ?_) session
      split
      · exact leavesNumbers_pure _
      · exact leavesNumbers_toName? leavesNumbers_removeEntity (leavesNumbers_pure _)
  | removeConstraint key =>
      refine leavesNumbers_discard (leavesNumbers_bind leavesNumbers_store fun store => ?_) session
      split
      · exact leavesNumbers_pure _
      · exact leavesNumbers_toName? leavesNumbers_removeConstraint (leavesNumbers_pure _)
  | remove key =>
      refine leavesNumbers_discard ?_ session
      exact leavesNumbers_toName? leavesNumbers_remove (leavesNumbers_pure _)
  | clear => rfl
  | addConstraint parts =>
      exact leavesNumbers_bind (leavesNumbers_lift _) leavesNumbers_addConstraint session
  | addConstraintRecord record =>
      exact leavesNumbers_bind (leavesNumbers_lift _) leavesNumbers_addConstraint session
  | configure record =>
      exact leavesNumbers_bind (leavesNumbers_lift _) leavesNumbers_setConfig session
  | changeSetting name value =>
      exact leavesNumbers_bind (leavesNumbers_lift _) leavesNumbers_setConfig session
  | setVerbose verbose => rfl
  | register formulas => rfl
  | solve record polls =>
      rcases read : record.mapM Config.ofJson with error | config
      · rw [Operation.action, perform_bind_error (by rw [read, perform_lift])]
      · rw [Operation.action, perform_bind_ok (by rw [read, perform_lift]),
          perform_bind_ok (perform_configOr config session), counters_discard]
        exact reached.counters_solve _ polls

end Session

end PlanarSketch
