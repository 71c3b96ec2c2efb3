import PlanarSketch.Json.Arithmetic
import PlanarSketch.Json.Writer
import PlanarSketch.Settings

/-!
# Configurations

A configuration holds the settings of a solve as they were given: a tolerance of `1` stays a whole
number. Building one from a record checks every setting in order (`Config.check`), so one that was
built that way is within its bounds; changing one setting checks all of them again.
`Config.settings` is the configuration in the scalars of a run.
-/

set_option autoImplicit false

namespace PlanarSketch

/-- The settings of a solve as they were given. -/
structure Config where
  maxIterations : Int := 100
  tolerance : Number := .double 1e-6
  dampingFactor : Number := .double 0.5
  mode : DerivativeMode := .forward
  epsilon : Number := .double 1e-8
  pivotTolerance : Number := .double 1e-12
  maxRankDeficiency : Option Number := none
deriving Inhabited

namespace Config

def toFields (config : Config) : List (Text × Json) := [
  ("max_iterations", .int config.maxIterations),
  ("tolerance", config.tolerance.toJson),
  ("damping_factor", config.dampingFactor.toJson),
  ("jacobian_mode", .str config.mode.name),
  ("fd_epsilon", config.epsilon.toJson),
  ("pivot_tolerance", config.pivotTolerance.toJson),
  ("max_rank_deficiency", (config.maxRankDeficiency.map Number.toJson).getD .null)]

def toJson (config : Config) : Json := .obj config.toFields

/-- A configuration as log lines show it. -/
def display (config : Config) : Text :=
  let settings := config.toFields.map fun field => Text.concat [field.1, "=", field.2.display]
  Text.concat ["SolverConfig(", Text.concat (settings.intersperse ", "), ")"]

/-- The number of iterations: whole, not a truth value, and at least one. -/
def checkIterations : Json → Except (Error Float) Int
  | .int n => if n < 1 then .error (.setting (.iterationsNotPositive n)) else .ok n
  | value => .error (.setting (.iterationsNotWhole value))

/-- The tolerance: finite and positive. -/
def checkTolerance (value : Json) : Except (Error Float) Number := do
  let tolerance ← value.toNumber
  if tolerance.isOversize then .error .tooLarge
  else if tolerance.nearest.isFinite && tolerance.isPositive then .ok tolerance
  else .error (.setting (.tolerance tolerance))

/-- The damping factor: above zero and at most one. -/
def checkDamping (value : Json) : Except (Error Float) Number := do
  let damping ← value.toNumber
  if damping.isPositive && damping.isAtMostOne then .ok damping
  else .error (.setting (.damping damping))

def checkMode (value : Json) : Except (Error Float) DerivativeMode :=
  match DerivativeMode.ofJson? value with
  | some mode => .ok mode
  | none => .error (.setting (.mode value))

/-- The step of difference quotients: positive. -/
def checkEpsilon (value : Json) : Except (Error Float) Number := do
  let epsilon ← value.toNumber
  if epsilon.isPositive then .ok epsilon else .error (.setting (.epsilon epsilon))

/-- The pivot tolerance: not negative. -/
def checkPivotTolerance (value : Json) : Except (Error Float) Number := do
  let tolerance ← value.toNumber
  if tolerance.isNonNegative then .ok tolerance else .error (.setting (.pivotTolerance tolerance))

/-- The limit on skipped pivots: absent, or not negative. -/
def checkDeficiency : Json → Except (Error Float) (Option Number)
  | .null => .ok none
  | value => do
    let limit ← value.toNumber
    if limit.lt .zero then .error (.setting (.deficiency limit)) else .ok (some limit)

/-- Builds a configuration from the fields of a record, with the default of each absent one. -/
def check (fields : List (Text × Json)) : Except (Error Float) Config := do
  let given (name : Text) : Json :=
    Json.optional name (Json.optional name .null (toFields {})) fields
  let maxIterations ← checkIterations (given "max_iterations")
  let tolerance ← checkTolerance (given "tolerance")
  let dampingFactor ← checkDamping (given "damping_factor")
  let mode ← checkMode (given "jacobian_mode")
  let epsilon ← checkEpsilon (given "fd_epsilon")
  let pivotTolerance ← checkPivotTolerance (given "pivot_tolerance")
  let maxRankDeficiency ← checkDeficiency (given "max_rank_deficiency")
  return {
    maxIterations, tolerance, dampingFactor, mode, epsilon, pivotTolerance, maxRankDeficiency }

/-- Builds a configuration from a record. Fields that are no settings are ignored. -/
def ofJson : Json → Except (Error Float) Config
  | .obj fields => check fields
  | _ => .error .noSuchOperation

def isSetting (name : Text) : Bool := (toFields {}).any fun field => field.1 == name

/-- Builds a configuration from settings given by name; every name must be one of a setting. -/
def ofSettings (fields : List (Text × Json)) : Except (Error Float) Config :=
  if fields.all fun field => isSetting field.1 then check fields
  else .error (.mismatch .arguments)

/-- The configuration with one setting changed. -/
def change (config : Config) (name : Text) (value : Json) : Except (Error Float) Config :=
  check (Json.setField name value config.toFields)

/-- The settings of a run in doubles. A tolerance between two doubles is rounded up, so comparing
with it stays exact. -/
def settings (config : Config) : Settings Float where
  budget := config.maxIterations.toNat
  tolerance := config.tolerance.roundedUp
  damping := config.dampingFactor.nearest
  mode := config.mode
  epsilon := config.epsilon.nearest
  pivotTolerance := config.pivotTolerance.nearest
  deficiencyLimit := config.maxRankDeficiency

end Config

end PlanarSketch
