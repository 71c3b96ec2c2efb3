import PlanarSketch.Json.Number
import PlanarSketch.Scalar

/-!
# Settings of a solve

What shapes a run of the solver, measured in the scalars of the run: how many iterations it may
take, when the residual is small enough, which part of each correction is applied, how derivatives
are obtained and with which step, which pivots count as zero, and how many of those a correction may
skip.
-/

set_option autoImplicit false

namespace PlanarSketch

/-- How the derivatives of residuals are obtained. -/
inductive DerivativeMode where
  /-- Difference quotients of one step forward. -/
  | forward
  /-- Difference quotients of one step either way. -/
  | central
  /-- Formulas where there are any, else forward difference quotients. -/
  | analytic
deriving DecidableEq, Repr, Inhabited

namespace DerivativeMode

def all : List DerivativeMode := [forward, central, analytic]

def name : DerivativeMode → String
  | forward => "forward"
  | central => "central"
  | analytic => "analytic"

/-- The mode a value names. -/
def ofJson? : Json → Option DerivativeMode
  | .str text => all.find? fun mode => Text.ofString mode.name == text
  | _ => none

end DerivativeMode

/-- What shapes a run of the solver. -/
structure Settings (α : Type) where
  /-- The number of iterations a run may take. -/
  budget : Nat
  /-- A residual norm below this ends the run with success. -/
  tolerance : α
  /-- The part of each correction that is applied. -/
  damping : α
  mode : DerivativeMode
  /-- The step of difference quotients. -/
  epsilon : α
  /-- A pivot below this counts as zero. -/
  pivotTolerance : α
  /-- How many pivots a correction may skip; no limit when absent. -/
  deficiencyLimit : Option Number

namespace Settings

/-- Whether a correction that skipped `skipped` pivots is over the limit. -/
def exceedsLimit {α : Type} (settings : Settings α) (skipped : Nat) : Bool :=
  match settings.deficiencyLimit with
  | some limit => limit.lt (.whole skipped)
  | none => false

end Settings

end PlanarSketch
