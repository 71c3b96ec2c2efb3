import PlanarSketch.Jacobian
import PlanarSketch.Linear.Correction

/-!
# Damped Newton iteration

A run starts from the values of a store and repeats: measure the residuals; stop when their norm is
below the tolerance; otherwise compute a correction and apply a part of it. Before each iteration
the run may be told to stop.

A run ends in one of four ways. It *converged* when a norm was below the tolerance. It *failed* when
a norm was not finite, when no correction could be computed, or when a correction skipped more
pivots than allowed. It was *cancelled* when told to stop. It is *exhausted* when the budget is
spent and the values after the last step are not good enough either. Whatever the end, other than a
cancellation or a refused correction, the values left are the best that were measured.

One iteration is one function (`Newton.iterate`) from a state to either an end or the next state,
and a run is its repetition, by recursion on what is left of the budget (`Newton.proceed`).
-/

set_option autoImplicit false

namespace PlanarSketch

variable {α : Type}

/-- What one completed iteration reports. -/
structure Iteration (α : Type) where
  number : Nat
  norm : α
  form : CorrectionForm
  skipped : Nat

/-- Why a run failed. -/
inductive RunFailure where
  /-- The norm of the residuals was infinite or undefined. -/
  | residualNotFinite (iteration : Nat)
  | noCorrection (cause : LinearFailure)
  /-- A correction skipped more pivots than allowed. -/
  | rankDeficient (iteration skipped : Nat)
deriving DecidableEq, Repr

/-- How a run ended. -/
inductive Ending where
  | converged
  | exhausted
  | failed (cause : RunFailure)
  | cancelled
deriving DecidableEq, Repr

def Ending.name : Ending → String
  | converged => "converged"
  | exhausted => "exhausted"
  | failed _ => "failed"
  | cancelled => "cancelled"

/-- The result of a run. -/
structure Outcome (α : Type) where
  ending : Ending
  iterations : Nat
  /-- The norm of the residuals at the values left; infinite when absent. -/
  residual : Option α
  /-- The finite norms that were measured, in order. -/
  history : Array α
  /-- The largest number of pivots a correction skipped. -/
  deficiency : Nat
  values : Array α
  /-- The iterations that computed a correction, in order. -/
  trace : Array (Iteration α)
  /-- The first iteration that took a difference quotient, with the first row it took one for. -/
  firstDifference : Option (Nat × Nat)

/-- What a run works on. -/
structure Problem (α : Type) where
  layout : Layout α
  settings : Settings α
  formulas : Formulas α

namespace Newton

/-- A run between two iterations. -/
structure State (α : Type) where
  values : Array α
  /-- The smallest norm measured so far, with the values that have it. -/
  best : Option (α × Array α)
  history : Array α
  deficiency : Nat
  trace : Array (Iteration α)
  firstDifference : Option (Nat × Nat)

def State.initial (values : Array α) : State α :=
  { values, best := none, history := #[], deficiency := 0, trace := #[], firstDifference := none }

/-- The end of a run with given values and residual. -/
def State.stop (state : State α) (ending : Ending) (iterations : Nat) (residual : Option α)
    (values : Array α) : Outcome α :=
  { ending, iterations, residual, values
    history := state.history
    deficiency := state.deficiency
    trace := state.trace
    firstDifference := state.firstDifference }

/-- The end of a run at the best values measured; at its own values when none was measured. -/
def State.stopAtBest (state : State α) (ending : Ending) (iterations : Nat) : Outcome α :=
  match state.best with
  | some (norm, values) => state.stop ending iterations (some norm) values
  | none => state.stop ending iterations none state.values

variable [Scalar α]

/-- The norm of the residuals at given values. -/
def normAt (problem : Problem α) (values : Array α) : α :=
  Layout.residualNorm (problem.layout.residuals values)

/-- Whether a norm is smaller than the best so far. -/
def improves (norm : α) : Option (α × Array α) → Bool
  | some best => Scalar.lt norm best.1
  | none => true

/-- Notes a finite norm at the state's values. -/
def State.record (state : State α) (norm : α) : State α :=
  { state with
    history := state.history.push norm
    best := if improves norm state.best then some (norm, state.values) else state.best }

/-- Notes the first row of an iteration with difference quotients, unless an earlier iteration had
one. -/
def State.noteDifferences (state : State α) (iteration : Nat) (row : Option Nat) : State α :=
  { state with
    firstDifference := state.firstDifference.or (row.map fun row => (iteration, row)) }

def State.noteCorrection {n : Nat} (state : State α) (iteration : Nat) (norm : α)
    (correction : Correction n α) : State α :=
  { state with
    deficiency := max state.deficiency correction.skipped
    trace := state.trace.push {
      number := iteration, norm, form := correction.form, skipped := correction.skipped } }

/-- One iteration leads to an end or to the next state. -/
inductive Step (α : Type) where
  | stop (outcome : Outcome α)
  | next (state : State α)

/-- The part of an iteration after a finite norm that is not below the tolerance. -/
def correct (problem : Problem α) (iteration : Nat) (norm : α)
    (residuals : Vector α problem.layout.equations) (state : State α) : Step α :=
  let settings := problem.settings
  let filled := Jacobian.fill problem.layout settings.mode settings.epsilon problem.formulas
    state.values (some residuals)
  let state := { state with values := filled.values }.noteDifferences iteration
    filled.firstDifference
  match Correction.solve settings.pivotTolerance filled.matrix residuals with
  | .error cause => .stop (state.stopAtBest (.failed (.noCorrection cause)) iteration)
  | .ok correction =>
    let state := state.noteCorrection iteration norm correction
    if settings.exceedsLimit correction.skipped then
      .stop (state.stop (.failed (.rankDeficient iteration correction.skipped)) iteration
        (some norm) state.values)
    else
      .next { state with
        values := problem.layout.advance settings.damping correction.delta state.values }

/-- One iteration, the one after `done` completed ones. -/
def iterate (problem : Problem α) (cancelled : Bool) (done : Nat) (state : State α) : Step α :=
  let residuals := problem.layout.residuals state.values
  let norm := Layout.residualNorm residuals
  if cancelled then .stop (state.stop .cancelled done (some norm) state.values)
  else if Scalar.isFinite norm then
    let state := state.record norm
    if Scalar.lt norm problem.settings.tolerance then
      .stop (state.stop .converged (done + 1) (some norm) state.values)
    else correct problem (done + 1) norm residuals state
  else .stop (state.stopAtBest (.failed (.residualNotFinite (done + 1))) (done + 1))

/-- The end of a run whose budget is spent: the values after the last step are measured once
more. -/
def finish (problem : Problem α) (done : Nat) (state : State α) : Outcome α :=
  let norm := normAt problem state.values
  let state :=
    if Scalar.isFinite norm && improves norm state.best then state.record norm else state
  let ending :=
    match state.best with
    | some best => if Scalar.lt best.1 problem.settings.tolerance then .converged else .exhausted
    | none => .exhausted
  state.stopAtBest ending done

/-- Repeats the iteration as long as the budget lasts. `polls k` says whether the run is told to
stop before iteration `k + 1`. -/
def proceed (problem : Problem α) (polls : Nat → Bool) : Nat → Nat → State α → Outcome α
  | 0, done, state => finish problem done state
  | left + 1, done, state =>
    match iterate problem (polls done) done state with
    | .stop outcome => outcome
    | .next state => proceed problem polls left (done + 1) state

/-- A whole run from given values. -/
def run (problem : Problem α) (polls : Nat → Bool) (values : Array α) : Outcome α :=
  proceed problem polls problem.settings.budget 0 (State.initial values)

end Newton

end PlanarSketch
