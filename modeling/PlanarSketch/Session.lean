import PlanarSketch.Diagnosis
import PlanarSketch.Fault
import PlanarSketch.Linear.Table
import PlanarSketch.Notice
import PlanarSketch.Record.Store

/-!
# Sessions

A session works on one sketch at a time: a store, a configuration, and the numbers last used for
naming. It also holds what outlives a sketch: whether the log is verbose, the formulas that were
given, and the log itself.

An operation (`Action`) may fail; what it changed before failing stays, as does what it wrote to the
log. Operations check everything before they change the store, so a failing one leaves the store as
it was; only a number drawn for a name stays drawn, and a solve that cannot write back a parameter
keeps those it wrote before. A configuration is not checked when it is put to use: whoever builds
one checks it (`Config.check`).
-/

set_option autoImplicit false

namespace PlanarSketch

/-- A sketch with its configuration and the numbers last used for naming, by stem. -/
structure Sketch where
  store : Store Float := {}
  config : Config := {}
  counters : List (Text × Nat) := []

namespace Sketch

/-- The version of the documents written here, and the newest that can be read. -/
def formatVersion : Int := 1

/-- The document of a sketch: that of its store, the version and the configuration. -/
def toJson (sketch : Sketch) : Json :=
  let own : List (Text × Json) := [
    ("version", .int formatVersion),
    ("config", sketch.config.toJson)]
  .obj (sketch.store.toFields ++ own)

/-- The document of a sketch as text, one item per line. -/
def toText (sketch : Sketch) : String := sketch.toJson.pretty

/-- A sketch in a few words. -/
def summary (sketch : Sketch) : String :=
  let store := sketch.store
  s!"ConstraintSolver(entities={store.entities.length}, constraints={store.constraints.length}, " ++
    s!"dof={store.freeParameters})"

/-- The version of a document: a whole number that is not too new, and the newest when absent. -/
def checkVersion (fields : List (Text × Json)) : Except (Error Float) Unit :=
  match Json.optional "version" (.int formatVersion) fields with
  | .int version =>
    if formatVersion < version then .error (.versionUnsupported version) else .ok ()
  | value => .error (.versionNotWhole value)

/-- The configuration of a document; the default when absent. -/
def readConfig (fields : List (Text × Json)) : Except (Error Float) Config :=
  match Json.field? "config" fields with
  | some value => Config.ofJson value
  | none => .ok {}

/-- The fields of a document. -/
def documentFields : Json → Except (Error Float) (List (Text × Json))
  | .obj fields => .ok fields
  | _ => .error .noSuchOperation

/-- The fields of a document given as text. -/
def textFields (text : Text) : Except (Error Float) (List (Text × Json)) :=
  match Json.parse text with
  | .ok (.obj fields) => .ok fields
  | .ok _ => .error .notObject
  | .error fault => .error (.notJson fault)

/-- Whether a name is taken by an entity or a constraint. -/
def isTaken (sketch : Sketch) (name : Text) : Bool :=
  sketch.store.hasEntity name || sketch.store.hasConstraint name

/-- A stem with a number. -/
def numberedName (stem : Text) (number : Nat) : Text := stem ++ Text.ofString (toString number)

/-- The number last used with a stem. -/
def lastNumber (sketch : Sketch) (stem : Text) : Nat :=
  ((sketch.counters.find? fun counter => counter.1 == stem).map (·.2)).getD 0

/-- The next number for a stem: the first after the last one used whose name is free. There are
fewer taken names than numbers tried. -/
def nextNumber (sketch : Sketch) (stem : Text) : Nat :=
  let first := sketch.lastNumber stem + 1
  let tries := sketch.store.entities.length + sketch.store.constraints.length + 1
  ((List.range' first tries).find? fun number => !sketch.isTaken (numberedName stem number)).getD
    first

/-- Notes the number last used with a stem. -/
def setNumber (sketch : Sketch) (stem : Text) (number : Nat) : Sketch :=
  { sketch with
    counters := (stem, number) :: sketch.counters.filter fun counter => counter.1 != stem }

end Sketch

/-- A sketch at work. -/
structure Session where
  sketch : Sketch := {}
  /-- Whether debug lines are logged. -/
  verbose : Bool := false
  /-- The formulas that were given, the last one last. -/
  formulas : List GivenFormula := []
  log : Array LogLine := #[]

/-- An operation of a session: it may fail, and what it changed before stays. -/
abbrev Action (β : Type) := ExceptT (Error Float) (StateM Session) β

namespace Session

/-- Takes the result of something that does not touch the session. -/
def lift {β : Type} (result : Except (Error Float) β) : Action β := ExceptT.mk (pure result)

def store : Action (Store Float) := do return (← get).sketch.store

def setStore (store : Store Float) : Action Unit :=
  modify fun session => { session with sketch := { session.sketch with store } }

def setConfig (config : Config) : Action Unit :=
  modify fun session => { session with sketch := { session.sketch with config } }

/-- Writes a line to the log; debug lines only when it is verbose. -/
def write (line : LogLine) : Action Unit :=
  modify fun session =>
    if line.level = .debug ∧ !session.verbose then session
    else { session with log := session.log.push line }

/-- Notes that a solver was set up. -/
def announce (config : Config) : Action Unit :=
  write ⟨.debug, Text.concat ["Constraint solver initialised (", config.display, ")"]⟩

/-- Starts with an empty sketch. A configuration that is given is used as it is; without one, the
default is. -/
def begin (config : Option Config) : Action Unit := do
  let config := config.getD {}
  modify fun session => { session with sketch := { config } }
  announce config

/-! ## Documents -/

/-- Opens the sketch of a document, which replaces the one at work. -/
def openFields (fields : List (Text × Json)) : Action Unit := do
  lift (Sketch.checkVersion fields)
  let config ← lift (Sketch.readConfig fields)
  announce config
  let store ← lift (Store.ofJson (.obj fields))
  announce config
  modify fun session => { session with sketch := { store, config } }

/-- Opens the sketch of a document given as a value. -/
def openDocument (document : Json) : Action Unit := do
  openFields (← lift (Sketch.documentFields document))

/-- Opens the sketch of a document given as text. -/
def openText (text : Text) : Action Unit := do openFields (← lift (Sketch.textFields text))

/-- How many records a store has, for the log. -/
def recordCounts (store : Store Float) : String :=
  s!"{store.entities.length} entities / {store.constraints.length} constraints"

/-- Saves the sketch at a place and opens it again from there; answers what was saved. -/
def saveAndOpen (place : Text) : Action String := do
  let sketch := (← get).sketch
  let text := sketch.toText
  write ⟨.info, Text.concat ["Saved ", recordCounts sketch.store, " to ", place]⟩
  openText text
  write ⟨.info, Text.concat ["Loaded ", recordCounts (← store), " from ", place]⟩
  return text

/-! ## Entities -/

/-- A fresh name with a stem. -/
def freshName (stem : Text) : Action Text := do
  let sketch := (← get).sketch
  let number := sketch.nextNumber stem
  modify fun session => { session with sketch := session.sketch.setNumber stem number }
  return Sketch.numberedName stem number

/-- A name that was asked for, or a fresh one when none was. -/
def nameOr (wanted : Json) (stem : Text) : Action Json := do
  if wanted.truthy then return wanted else return .str (← freshName stem)

def addEntity (entity : Entity Float) : Action Unit := do setStore ((← store).addEntity entity)

/-- Adds a shape with parameters given as values, under a name that was asked for or a fresh one. -/
def addShape (kind : ShapeKind) (parameters : List Json) (fixed name : Json) : Action Json := do
  let name ← nameOr name kind.stem
  addEntity (← lift (Entity.ofParts name (.str kind.name) (.ok parameters) fixed))
  return name

/-- Adds a figure. It is taken apart before a name is drawn. -/
def addFigure (figure : Figure) (fixed name : Json) : Action Json := do
  addShape figure.kind (← lift figure.items) fixed name

/-- Gives an entity new parameters; answers whether it took them. -/
def updateEntity (name : Text) (parameters : Json) : Action Bool := do
  let (taken, store) ← lift ((← store).reshape name (Shape.ofValue parameters))
  setStore store
  return taken

/-- Takes out an entity with the constraints on it; answers whether it was there. -/
def removeEntity (name : Text) : Action Bool := do
  let store ← store
  let dependents := store.constraintsOn name
  unless dependents.isEmpty do
    write ⟨.debug, Text.concat
      ["Removing entity '", name, s!"' cascaded to {dependents.length} constraint(s)"]⟩
  setStore (store.removeEntity name)
  return store.hasEntity name

def removeConstraint (name : Text) : Action Bool := do
  let store ← store
  setStore (store.removeConstraint name)
  return store.hasConstraint name

/-- Takes out the entity with a name, or else the constraint with that name. -/
def remove (name : Text) : Action Bool := do
  if (← store).hasEntity name then removeEntity name else removeConstraint name

def parameters (name : Text) : Action (List Float) := do
  match (← store).entity? name with
  | some entity => return entity.parameters
  | none => throw (.nameUnknown (.str name))

/-- Overwrites one parameter of an entity without any check. -/
def overwrite (name : Text) (index : Nat) (value : Float) : Action Unit := do
  let store ← store
  setStore { store with
    entities := Ledger.modify name
      (fun entity => { entity with shape := entity.shape.set index value }) store.entities }

def clear : Action Unit := setStore {}

/-! ## Constraints -/

def addConstraint (constraint : Constraint Float) : Action Unit := do
  setStore (← lift ((← store).addConstraint constraint))

/-- Adds a relation under a name that was asked for or a fresh one. -/
def constrain (kind : RelationKind) (references : List Json) (value tolerance name : Json) :
    Action Json := do
  let name ← nameOr name kind.stem
  addConstraint (← lift (Constraint.ofParts {
    name, kind := .str kind.name, references := .ok references, value, tolerance }))
  return name

/-! ## Configuration -/

/-- Uses a configuration from now on, as it is and without a check. -/
def configure (config : Config) : Action Unit := setConfig config

def changeSetting (name : Text) (value : Json) : Action Unit := do
  setConfig (← lift ((← get).sketch.config.change name value))

/-- A configuration if one is given, else the one in use. -/
def configOr (config : Option Config) : Action Config := do
  return config.getD (← get).sketch.config

/-! ## Solving -/

/-- Uses given formulas from now on. -/
def register (formulas : List GivenFormula) : Action Unit :=
  modify fun session => { session with formulas := session.formulas ++ formulas }

/-- Solves the sketch. `polls k` says whether the run is told to stop before iteration `k + 1`. A
fault ends the run; what it logged before stays, and the store is as before. -/
def solve (config : Config) (polls : Nat → Bool) : Action (Report Float) := do
  let session ← get
  let layout ← lift (Layout.ofStore session.sketch.store)
  let formulas := Formulas.given layout session.formulas
  let solved ← lift (session.sketch.store.solve config.settings formulas polls)
  write solved.freedom.logLine
  match solved.outcome.fault? config layout session.formulas with
  | some fault =>
    for line in solved.outcome.trace.toList.take (fault.iteration - 1) do write line.logLine
    throw fault.error
  | none =>
    for line in solved.outcome.trace do write line.logLine
    setStore solved.store
    let report ← lift solved.report
    write report.logLine
    return report

/-- The rank of the sketch's derivatives. -/
def diagnose (config : Config) : Action (Diagnosis Float) := do
  let session ← get
  let ⟨_, _, jacobian⟩ ← lift (session.sketch.store.givenJacobian config.mode config.epsilon.toStep
    session.formulas)
  lift (Diagnosis.ofMatrix jacobian.matrix none)

def residuals : Action (List Float) := do lift (← store).residuals

/-- Moves the unknowns by a step and writes named entities back, all that are not fixed unless names
are given; with `undo` the values go back before writing. Answers the values. -/
def nudge (step : Table Float) (undo : Bool) (names : Option (List Text)) :
    Action (Array Float) := do
  let store ← store
  let layout ← lift (Layout.ofStore store)
  let values := store.parameters.toArray
  let summand ← lift ((step.summand layout.unknowns).mapError .extent)
  let moved := if undo then values else layout.advance Scalar.one summand values
  let (written, store) := layout.writeBack moved (names.getD layout.freeNames) store
  setStore store
  lift written
  return moved

end Session

end PlanarSketch
