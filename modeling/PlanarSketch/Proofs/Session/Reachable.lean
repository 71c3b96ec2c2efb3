import PlanarSketch.Proofs.Config.Checked
import PlanarSketch.Proofs.Session.Solve
import PlanarSketch.Proofs.Solve.Solved

/-!
# Reachable sessions

The operations of a session take any values (`Session.Operation`), and what they change before
failing stays. A session uses a configuration as it is; the operations build theirs from records,
which checks them. A session is reachable when operations lead to it from a fresh one
(`Session.Reachable`).

No operation makes a sound store unsound, not even one that fails or a solve that cannot write back,
and a configuration is only ever replaced by one that was built from a record. So the store of every
reachable session is sound (`Session.Reachable.sound`), and its configuration is settled
(`Session.Reachable.settled`). Overwriting a parameter without a check is not among the operations.
-/

set_option autoImplicit false

namespace PlanarSketch

namespace Session

/-! ## Operations -/

/-- The operations that change a session, with any values for what they are given. Configurations
are given by records that they are built from. -/
inductive Operation where
  | begin (config : Option Json)
  | openDocument (document : Json)
  | openText (text : Text)
  | saveAndOpen (place : Text)
  | addShape (kind : ShapeKind) (parameters : List Json) (fixed name : Json)
  | addFigure (figure : Figure) (fixed name : Json)
  | addEntity (name kind : Json) (parameters : Except (Error Float) (List Json)) (fixed : Json)
  | addEntityRecord (record : Json)
  | updateEntity (key parameters : Json)
  | removeEntity (key : Json)
  | removeConstraint (key : Json)
  | remove (key : Json)
  | clear
  | constrain (kind : RelationKind) (references : List Json) (value tolerance name : Json)
  | addConstraint (parts : Constraint.Parts)
  | addConstraintRecord (record : Json)
  | configure (record : Json)
  | changeSetting (name : Text) (value : Json)
  | setVerbose (verbose : Bool)
  | register (formulas : List GivenFormula)
  | solve (record : Option Json) (polls : Nat → Bool)

/-- The action of an operation; answers are dropped. -/
def Operation.action : Operation → Action Unit
  | begin config => do Session.begin (← lift (config.mapM Config.ofJson))
  | openDocument document => Session.openDocument document
  | openText text => Session.openText text
  | saveAndOpen place => do let _ ← Session.saveAndOpen place
  | addShape kind parameters fixed name => do let _ ← Session.addShape kind parameters fixed name
  | addFigure figure fixed name => do let _ ← Session.addFigure figure fixed name
  | addEntity name kind parameters fixed => do
    Session.addEntity (← lift (Entity.ofParts name kind parameters fixed))
  | addEntityRecord record => do Session.addEntity (← lift (Entity.ofJson record))
  | updateEntity key parameters => do let _ ← Keyed.updateEntity key parameters
  | removeEntity key => do let _ ← Keyed.removeEntity key
  | removeConstraint key => do let _ ← Keyed.removeConstraint key
  | remove key => do let _ ← Keyed.remove key
  | clear => Session.clear
  | constrain kind references value tolerance name => do
    let _ ← Session.constrain kind references value tolerance name
  | addConstraint parts => do Session.addConstraint (← lift (Constraint.ofParts parts))
  | addConstraintRecord record => do Session.addConstraint (← lift (Constraint.ofJson record))
  | configure record => do Session.configure (← lift (Config.ofJson record))
  | changeSetting name value => Session.changeSetting name value
  | setVerbose verbose => modify fun session => { session with verbose }
  | register formulas => Session.register formulas
  | solve record polls => do
    let config ← lift (record.mapM Config.ofJson)
    let _ ← Session.solve (← Session.configOr config) polls

/-- The sessions that operations lead to from a fresh one, whether they succeed or fail. -/
inductive Reachable : Session → Prop where
  | fresh : Reachable {}
  | step {session : Session} (reached : Reachable session) (operation : Operation) :
      Reachable (operation.action.perform session).2

/-- A session performs a list of operations, each from what the one before left. -/
def afterAll (operations : List Operation) (session : Session) : Session :=
  operations.foldl (fun session operation => (operation.action.perform session).2) session

theorem Reachable.afterAll {session : Session} (reached : Reachable session)
    (operations : List Operation) : Reachable (afterAll operations session) := by
  induction operations generalizing session with
  | nil => exact reached
  | cons operation rest ih => exact ih (reached.step operation)

/-- Two points, the first of them fixed, that a constraint wants at a distance. The sketch starts
with the configuration of a record. -/
def twoPoints (config : Json) (distance : Float) : Session :=
  afterAll [
    .begin (some config),
    .addShape .point [.float 0.0, .float 0.0] (.bool true) (.str "A"),
    .addShape .point [.float 1.0, .float 0.0] (.bool false) (.str "B"),
    .constrain .distance [.str "A", .str "B"] (.float distance)
      Constraint.defaultTolerance (.str "d")] {}

theorem reachable_twoPoints (config : Json) (distance : Float) :
    Reachable (twoPoints config distance) :=
  Reachable.fresh.afterAll _

/-! ## Parts of operations -/

/-- A session whose store is sound. -/
def Sound (session : Session) : Prop := session.sketch.store.Sound

/-- What the run of a solve in a session works on. -/
def problem (session : Session) (layout : Layout Float) (config : Config) : Problem Float :=
  { layout, settings := config.settings, formulas := Formulas.given layout session.formulas }

/-- The outcome of the run of a solve in a session. -/
def outcome (session : Session) (layout : Layout Float) (config : Config) (polls : Nat → Bool) :
    Outcome Float :=
  Newton.run (session.problem layout config) polls session.sketch.store.parameters.toArray

/-- **Solving from a sound store.** The store has a flat view and is solved in one of the two ways;
a fault keeps the session from taking over what came of it. -/
theorem Sound.perform_solve {session : Session} (sound : session.Sound) (config : Config)
    (polls : Nat → Bool) :
    ∃ layout solved log, Layout.ofStore session.sketch.store = .ok layout ∧
      session.sketch.store.solve config.settings (Formulas.given layout session.formulas) polls =
        .ok solved ∧
      session.sketch.store.Solves layout (session.outcome layout config polls) solved ∧
      Action.perform (solve config polls) session =
        match (session.outcome layout config polls).fault? config layout session.formulas with
        | some fault => (.error fault.error, { session with log })
        | none =>
          (solved.report,
            { session with sketch := { session.sketch with store := solved.store }, log }) := by
  obtain ⟨layout, laid⟩ := Layout.ofStore_of_sound sound
  obtain ⟨solved, solving, solves⟩ := Store.solves_of_laid laid sound.entityNames config.settings
    (Formulas.given layout session.formulas) polls
  obtain ⟨log, performed⟩ := Session.perform_solve laid solving
  rw [solves.outcome_eq] at performed
  exact ⟨layout, solved, log, laid, solving, solves, performed⟩

/-- A session whose store is sound and whose configuration is settled. -/
structure Proper (session : Session) : Prop where
  sound : session.Sound
  settled : session.sketch.config.Settled

open PlanarSketch.Action

theorem perform_store (session : Session) :
    perform store session = (.ok session.sketch.store, session) :=
  rfl

theorem keeps_store : Keeps Proper store Store.Sound :=
  keeps_bind keeps_get fun _ proper => keeps_pure proper.sound

theorem keeps_setStore {store : Store Float} (sound : store.Sound) :
    Keeps Proper (setStore store) fun _ => True :=
      keeps_modify fun _ proper => ⟨sound, proper.settled⟩

theorem keeps_setConfig {config : Config} (settled : config.Settled) :
    Keeps Proper (setConfig config) fun _ => True :=
      keeps_modify fun _ proper => ⟨proper.sound, settled⟩

theorem keeps_write (line : LogLine) : Keeps Proper (write line) fun _ => True := by
  refine keeps_modify ?_
  intro session proper
  split
  · exact proper
  · exact ⟨proper.sound, proper.settled⟩

theorem keeps_announce (config : Config) : Keeps Proper (announce config) fun _ => True :=
  keeps_write _

theorem keeps_freshName (stem : Text) : Keeps Proper (freshName stem) fun _ => True :=
  keeps_bind keeps_get fun _ _ =>
    keeps_bind (keeps_modify fun _ proper => ⟨proper.sound, proper.settled⟩) fun _ _ =>
      keeps_pure trivial

theorem keeps_nameOr (wanted : Json) (stem : Text) :
    Keeps Proper (nameOr wanted stem) fun _ => True := by
  rw [nameOr]
  split
  · exact keeps_pure trivial
  · exact keeps_bind (keeps_freshName stem) fun _ _ => keeps_pure trivial

theorem settled_readConfig {fields : List (Text × Json)} {config : Config}
    (read : Sketch.readConfig fields = .ok config) : config.Settled := by
  unfold Sketch.readConfig at read
  split at read
  · exact Config.settled_ofJson read
  · cases read
    exact Config.settled_default

theorem keeps_openFields (fields : List (Text × Json)) :
    Keeps Proper (openFields fields) fun _ => True := by
  refine keeps_bind (keeps_lift fun _ _ => trivial) fun _ _ => ?_
  refine keeps_bind (keeps_lift fun _ read => settled_readConfig read) fun config settled => ?_
  refine keeps_bind (keeps_announce config) fun _ _ => ?_
  refine keeps_bind (keeps_lift fun _ read => Store.sound_ofJson read) fun store sound => ?_
  refine keeps_bind (keeps_announce config) fun _ _ => ?_
  exact keeps_modify fun _ _ => ⟨sound, settled⟩

theorem keeps_openText (text : Text) : Keeps Proper (openText text) fun _ => True :=
  keeps_bind (keeps_lift fun _ _ => trivial) fun fields _ => keeps_openFields fields

theorem keeps_addEntity {entity : Entity Float} (sound : entity.Sound) :
    Keeps Proper (addEntity entity) fun _ => True :=
  keeps_bind keeps_store fun _ before => keeps_setStore (before.addEntity sound)

theorem keeps_addConstraint {constraint : Constraint Float} (sound : constraint.Sound) :
    Keeps Proper (addConstraint constraint) fun _ => True := by
  refine keeps_bind keeps_store fun store before => ?_
  refine keeps_bind (keeps_lift fun _ filed => before.addConstraint sound filed) fun after filed =>
    ?_
  exact keeps_setStore filed

theorem keeps_updateEntity (name : Text) (parameters : Json) :
    Keeps Proper (updateEntity name parameters) fun _ => True := by
  refine keeps_bind keeps_store fun store before => ?_
  have reshapes : Keeps Proper (lift (store.reshape name (Shape.ofValue parameters)))
      fun answer => answer.2.Sound := by
    refine keeps_lift ?_
    rintro ⟨taken, after⟩ reshaped
    exact before.reshape (fun _ _ made => Shape.ofValue_ok made) reshaped
  exact keeps_bind reshapes fun answer after =>
    keeps_bind (keeps_setStore after) fun _ _ => keeps_pure trivial

/-- Taking out an entity answers whether it was there, and may write to the log. -/
theorem perform_removeEntity (name : Text) (session : Session) :
    ∃ log, perform (removeEntity name) session =
      (.ok (session.sketch.store.hasEntity name),
        { session with
          sketch := { session.sketch with store := session.sketch.store.removeEntity name }
          log }) := by
  rw [removeEntity, perform_bind_ok (perform_store session)]
  dsimp only
  split
  · exact ⟨session.log, rfl⟩
  · obtain ⟨log, written⟩ := logs_write _ session
    refine ⟨log, ?_⟩
    rw [perform_bind_ok written]
    rfl

theorem perform_remove (name : Text) (session : Session) :
    perform (remove name) session =
      if session.sketch.store.hasEntity name then perform (removeEntity name) session
      else perform (removeConstraint name) session := by
  rw [remove, perform_bind_ok (perform_store session)]
  split <;> rfl

theorem keeps_removeEntity (name : Text) : Keeps Proper (removeEntity name) fun _ => True := by
  intro session proper
  obtain ⟨log, performed⟩ := perform_removeEntity name session
  rw [performed]
  exact ⟨⟨Store.Sound.removeEntity proper.sound name, proper.settled⟩, fun _ _ => trivial⟩

theorem keeps_removeConstraint (name : Text) : Keeps Proper (removeConstraint name) fun _ => True :=
  keeps_bind keeps_store fun _ before =>
    keeps_bind (keeps_setStore (before.removeConstraint name)) fun _ _ => keeps_pure trivial

theorem keeps_remove (name : Text) : Keeps Proper (remove name) fun _ => True := by
  intro session proper
  rw [perform_remove]
  split
  · exact keeps_removeEntity name session proper
  · exact keeps_removeConstraint name session proper

theorem perform_configOr (config : Option Config) (session : Session) :
    perform (configOr config) session = (.ok (config.getD session.sketch.config), session) := rfl

theorem keeps_configOr (config : Option Config) : Keeps Proper (configOr config) fun _ => True :=
  keeps_bind keeps_get fun _ _ => keeps_pure trivial

/-- A figure that can be taken apart is added like the shape with its parameters. -/
theorem addFigure_of_items {figure : Figure} {parameters : List Json}
    (taken : figure.items = .ok parameters) (fixed name : Json) :
    addFigure figure fixed name = addShape figure.kind parameters fixed name := by
  rw [addFigure, taken]
  rfl

/-- One that cannot is refused, and no name is drawn. -/
theorem perform_addFigure_error {figure : Figure} {error : Error Float}
    (stuck : figure.items = .error error) (fixed name : Json) (session : Session) :
    perform (addFigure figure fixed name) session = (.error error, session) := by
  rw [addFigure, stuck]
  rfl

theorem keeps_addShape (kind : ShapeKind) (parameters : List Json) (fixed name : Json) :
    Keeps Proper (addShape kind parameters fixed name) fun _ => True := by
  refine keeps_bind (keeps_nameOr name kind.stem) fun name _ => ?_
  refine keeps_bind (keeps_lift fun _ built => Entity.sound_ofParts built) fun entity sound => ?_
  exact keeps_bind (keeps_addEntity sound) fun _ _ => keeps_pure trivial

/-- Starting never fails, whatever the configuration. -/
theorem perform_begin (config : Option Config) (session : Session) :
    ∃ log, perform (begin config) session =
      (.ok (), { session with sketch := { config := config.getD {} }, log }) := by
  obtain ⟨log, announced⟩ := logs_write
    ⟨.debug, Text.concat ["Constraint solver initialised (", (config.getD {}).display, ")"]⟩
    { session with sketch := { config := config.getD {} } }
  refine ⟨log, ?_⟩
  rw [begin, perform_bind_ok (perform_modify _ _), announce, announced]

theorem keeps_begin {config : Option Config} (settled : (config.getD {}).Settled) :
    Keeps Proper (begin config) fun _ => True := by
  refine keeps_bind (keeps_modify fun _ _ => ⟨Store.sound_empty, settled⟩) fun _ _ => ?_
  exact keeps_announce _

/-- A solve keeps a session proper, whatever comes of it. -/
theorem keeps_solve (config : Config) (polls : Nat → Bool) :
    Keeps Proper (solve config polls) fun _ => True := by
  rintro session ⟨sound, settled⟩
  refine ⟨?_, fun _ _ => trivial⟩
  obtain ⟨layout, solved, log, laid, _, solves, performed⟩ := sound.perform_solve config polls
  rw [performed]
  split
  · exact ⟨sound, settled⟩
  · refine ⟨Store.Sound.framed sound (solves.framed laid) ?_, settled⟩
    exact solves.isFinite fun entity member => (sound.entities entity member).finite

/-- **Every operation keeps a session proper.** -/
theorem Operation.keeps (operation : Operation) : Keeps Proper operation.action fun _ => True := by
  cases operation with
  | begin config =>
      exact keeps_bind (keeps_lift fun _ read => Config.settled_getD read) fun _ => keeps_begin
  | openDocument document =>
      exact keeps_bind (keeps_lift fun _ _ => trivial) fun fields _ => keeps_openFields fields
  | openText text => exact keeps_openText text
  | saveAndOpen place =>
      refine keeps_discard ?_
      refine keeps_bind keeps_get fun session _ => ?_
      refine keeps_bind (keeps_write _) fun _ _ => ?_
      refine keeps_bind (keeps_openText _) fun _ _ => ?_
      refine keeps_bind keeps_store fun _ _ => ?_
      exact keeps_bind (keeps_write _) fun _ _ => keeps_pure trivial
  | addShape kind parameters fixed name =>
      exact keeps_discard (keeps_addShape kind parameters fixed name)
  | addFigure figure fixed name =>
      exact keeps_discard (keeps_bind (keeps_lift fun _ _ => trivial)
        fun parameters _ => keeps_addShape figure.kind parameters fixed name)
  | addEntity name kind parameters fixed =>
      exact keeps_bind (keeps_lift fun _ built => Entity.sound_ofParts built)
        fun entity sound => keeps_addEntity sound
  | addEntityRecord record =>
      exact keeps_bind (keeps_lift fun _ built => Entity.sound_ofJson built)
        fun entity sound => keeps_addEntity sound
  | updateEntity key parameters =>
      refine keeps_discard ?_
      refine keeps_bind (keeps_lift fun _ _ => trivial) fun name _ => ?_
      cases name with
      | some name => exact keeps_updateEntity name parameters
      | none => exact keeps_throw _
  | removeEntity key =>
      refine keeps_discard ?_
      refine keeps_bind keeps_store fun store _ => ?_
      split
      · exact keeps_pure trivial
      · refine keeps_bind (keeps_lift fun _ _ => trivial) fun name _ => ?_
        cases name with
        | some name => exact keeps_removeEntity name
        | none => exact keeps_pure trivial
  | removeConstraint key =>
      refine keeps_discard ?_
      refine keeps_bind keeps_store fun store _ => ?_
      split
      · exact keeps_pure trivial
      · refine keeps_bind (keeps_lift fun _ _ => trivial) fun name _ => ?_
        cases name with
        | some name => exact keeps_removeConstraint name
        | none => exact keeps_pure trivial
  | remove key =>
      refine keeps_discard ?_
      refine keeps_bind (keeps_lift fun _ _ => trivial) fun name _ => ?_
      cases name with
      | some name => exact keeps_remove name
      | none => exact keeps_pure trivial
  | clear => exact keeps_setStore Store.sound_empty
  | constrain kind references value tolerance name =>
      refine keeps_discard ?_
      refine keeps_bind (keeps_nameOr name kind.stem) fun name _ => ?_
      refine keeps_bind (keeps_lift fun _ built => Constraint.sound_ofParts built) fun made sound =>
        ?_
      exact keeps_bind (keeps_addConstraint sound) fun _ _ => keeps_pure trivial
  | addConstraint parts =>
      exact keeps_bind (keeps_lift fun _ built => Constraint.sound_ofParts built)
        fun constraint sound => keeps_addConstraint sound
  | addConstraintRecord record =>
      exact keeps_bind (keeps_lift fun _ built => Constraint.sound_ofJson built)
        fun constraint sound => keeps_addConstraint sound
  | configure record =>
      exact keeps_bind (keeps_lift fun _ read => Config.settled_ofJson read)
        fun config settled => keeps_setConfig settled
  | changeSetting name value =>
      refine keeps_bind keeps_get fun session _ => ?_
      exact keeps_bind (keeps_lift fun _ checked => Config.settled_of_check checked)
        fun config settled => keeps_setConfig settled
  | setVerbose verbose => exact keeps_modify fun _ proper => ⟨proper.sound, proper.settled⟩
  | register formulas => exact keeps_modify fun _ proper => ⟨proper.sound, proper.settled⟩
  | solve record polls =>
      refine keeps_bind (keeps_lift fun _ _ => trivial) fun config _ => ?_
      refine keeps_bind (keeps_configOr config) fun config _ => ?_
      exact keeps_discard (keeps_solve config polls)

/-- **A reachable session is proper.** -/
theorem Reachable.proper {session : Session} (reached : Reachable session) : session.Proper := by
  induction reached with
  | fresh => exact ⟨Store.sound_empty, Config.settled_default⟩
  | step _ operation ih => exact (operation.keeps _ ih).1

theorem Reachable.sound {session : Session} (reached : Reachable session) : session.Sound :=
  reached.proper.sound

theorem Reachable.settled {session : Session} (reached : Reachable session) :
    session.sketch.config.Settled := reached.proper.settled

/-! ## Solving from a reachable session -/

/-- A reachable session is solved like every sound one. -/
theorem Reachable.perform_solve {session : Session} (reached : Reachable session) (config : Config)
    (polls : Nat → Bool) :
    ∃ layout solved log, Layout.ofStore session.sketch.store = .ok layout ∧
      session.sketch.store.Solves layout (session.outcome layout config polls) solved ∧
      Action.perform (solve config polls) session =
        match (session.outcome layout config polls).fault? config layout session.formulas with
        | some fault => (.error fault.error, { session with log })
        | none =>
          (solved.report,
            { session with sketch := { session.sketch with store := solved.store }, log }) := by
  obtain ⟨layout, solved, log, laid, _, solves, performed⟩ :=
    reached.sound.perform_solve config polls
  exact ⟨layout, solved, log, laid, solves, performed⟩

variable {session : Session} {polls : Nat → Bool}

/-- A solve that answers a report does so for the store. -/
theorem Reachable.solving_of_perform (reached : Reachable session) {config : Config}
    {report : Report Float} {after : Session}
    (done : Action.perform (solve config polls) session = (.ok report, after)) :
    ∃ layout solved, Layout.ofStore session.sketch.store = .ok layout ∧
      session.sketch.store.solve config.settings (Formulas.given layout session.formulas) polls =
        .ok solved ∧
      session.sketch.store.Solves layout (session.outcome layout config polls) solved ∧
      solved.report = .ok report ∧ after.sketch.store = solved.store := by
  obtain ⟨layout, solved, log, laid, solving, solves, performed⟩ :=
    reached.sound.perform_solve config polls
  rw [performed] at done
  split at done
  case h_1 _ => cases done
  case h_2 _ =>
    obtain ⟨reported, rfl⟩ := Prod.mk.inj done
    exact ⟨layout, solved, laid, solving, solves, reported, rfl⟩

/-- A solve that answers a report leaves the store that the report is about. -/
theorem Reachable.solves_of_perform (reached : Reachable session) {config : Config}
    {report : Report Float} {after : Session}
    (done : Action.perform (solve config polls) session = (.ok report, after)) :
    ∃ layout solved, Layout.ofStore session.sketch.store = .ok layout ∧
      session.sketch.store.Solves layout (session.outcome layout config polls) solved ∧
      solved.report = .ok report ∧ after.sketch.store = solved.store := by
  obtain ⟨layout, solved, laid, _, solves, reported, same⟩ := reached.solving_of_perform done
  exact ⟨layout, solved, laid, solves, reported, same⟩

/-- The store of a reachable session, solved by itself, is solved in one of the two ways. -/
theorem Reachable.solves_of_solve (reached : Reachable session) {settings : Settings Float}
    {formulas : Formulas Float} {solved : Solved Float}
    (solving : session.sketch.store.solve settings formulas polls = .ok solved) :
    ∃ layout, Layout.ofStore session.sketch.store = .ok layout ∧
      session.sketch.store.Solves layout
        (Newton.run { layout, settings, formulas } polls session.sketch.store.parameters.toArray)
        solved := by
  obtain ⟨layout, laid⟩ := Layout.ofStore_of_sound reached.sound
  obtain ⟨same, solvedSame, solves⟩ :=
    Store.solves_of_laid laid reached.sound.entityNames settings formulas polls
  rw [solving] at solvedSame
  cases solvedSame
  exact ⟨layout, laid, solves⟩

end Session

end PlanarSketch
