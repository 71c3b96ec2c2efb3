import PlanarSketch.Config
import PlanarSketch.Solve

/-!
# Notices and log lines in words

The wording of what a report draws attention to, and of the lines a solve writes to the log.
Residuals are written with four or seven significant digits, tolerances with six.
-/

set_option autoImplicit false

namespace PlanarSketch

/-- A residual norm, infinite when absent, with a number of places after the point. -/
def residualText (places : Nat) (residual : Option Float) : String :=
  Decimal.scientific places (residual.getD Binary64.infinity)

namespace Config

def pivotText (config : Config) : String := Decimal.general config.pivotTolerance.nearest

def toleranceText (config : Config) : String := Decimal.general config.tolerance.nearest

def limitText (config : Config) : String :=
  ((config.maxRankDeficiency.map Number.toJson).getD .null).display

end Config

/-- Why a run failed, in words. -/
def RunFailure.text (config : Config) : RunFailure → String
  | residualNotFinite iteration => s!"Residual became non-finite at iteration {iteration}"
  | noCorrection cause => s!"Failed to solve linear system: {cause.message}"
  | rankDeficient iteration skipped =>
    s!"Rank-deficient system at iteration {iteration}: {skipped} pivot(s) below " ++
      s!"{config.pivotText} (limit {config.limitText})"

/-- A notice in words. -/
def Notice.text (config : Config) : Notice Float → Text
  | overConstrained freedom => freedom.describe
  | noDirection constraint kind shape entity =>
    Text.concat ["Constraint '", constraint, "' (", kind.name, ") references ",
      shape.name, " '", entity, "', which has no direction; (1, 0) is used"]
  | failed cause => cause.text config
  | cancelled iterations => s!"Solve cancelled after {iterations} iteration(s)"
  | notConverged residual =>
    Text.concat [
      s!"Solver did not converge after {Json.intText config.maxIterations} iterations ",
      s!"(residual {residualText 3 residual}, tolerance {config.toleranceText})"]
  | skippedPivots count =>
    Text.concat [
      s!"Rank-deficient correction: up to {count} pivot(s) below {config.pivotText} were skipped; ",
      "some constraints may be redundant or unreachable"]

/-- The importance of a log line. -/
inductive Level where
  | debug
  | info
  | warning
deriving DecidableEq, Repr

def Level.name : Level → String
  | debug => "DEBUG"
  | info => "INFO"
  | warning => "WARNING"

structure LogLine where
  level : Level
  text : Text
deriving DecidableEq, Repr

def LogLine.display (line : LogLine) : Text :=
  Text.concat ["[sketchsolver] ", line.level.name, ": ", line.text]

/-- The line that opens a solve. -/
def Freedom.logLine (freedom : Freedom) : LogLine :=
  ⟨if freedom.isOver then .warning else .debug, freedom.describe⟩

/-- The line of an iteration that computed a correction. -/
def Iteration.logLine (iteration : Iteration Float) : LogLine :=
  ⟨.debug, Text.concat [
    s!"iteration {iteration.number}: residual={Decimal.scientific 6 iteration.norm} ",
    s!"form={iteration.form.name} skipped_pivots={iteration.skipped}"]⟩

/-- The line that closes a solve. -/
def Report.logLine (report : Report Float) : LogLine :=
  let residual := residualText 3 report.residual
  if report.success then
    ⟨.info, s!"Solve converged in {report.iterations} iteration(s), residual {residual}"⟩
  else
    ⟨.warning, Text.concat [
      s!"Solve ended {report.ending.name} after {report.iterations} iteration(s), ",
      s!"residual {residual}"]⟩

end PlanarSketch
