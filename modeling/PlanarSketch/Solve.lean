import PlanarSketch.Freedom
import PlanarSketch.Newton

/-!
# Solving a store

A solve lays the store out flat, runs the iteration, gives the entities that are not fixed their new
parameters, and notes for each constraint whether it is satisfied. Its report says how the run
ended, what is now in the store, and what the caller should know (`Notice`).

Writing the parameters back can fail, when one of them is not finite; then there is no report, and
the entities before the failing one keep what was written.
-/

set_option autoImplicit false

namespace PlanarSketch

variable {α : Type}

/-- What a report draws attention to. -/
inductive Notice (α : Type) where
  /-- There are more equations than unknowns. -/
  | overConstrained (freedom : Freedom)
  /-- A relation about directions refers to something that has none. -/
  | noDirection (constraint : Text) (kind : RelationKind) (shape : ShapeKind) (entity : Text)
  | failed (cause : RunFailure)
  | cancelled (iterations : Nat)
  /-- The run spent its budget. -/
  | notConverged (residual : Option α)
  /-- Corrections skipped pivots, which was allowed. -/
  | skippedPivots (count : Nat)

/-- How a constraint stands after a solve. -/
structure ConstraintReport (α : Type) where
  name : Text
  residual : α
  satisfied : Bool

/-- What a solve reports. -/
structure Report (α : Type) where
  freedom : Freedom
  ending : Ending
  iterations : Nat
  /-- The norm of the residuals; infinite when absent. -/
  residual : Option α
  history : List α
  deficiency : Nat
  entities : List (Entity α)
  constraints : List (ConstraintReport α)
  notices : List (Notice α)

namespace Report

def success (report : Report α) : Bool := report.ending = .converged

def satisfiedCount (report : Report α) : Nat :=
  (report.constraints.filter fun constraint => constraint.satisfied).length

def unsatisfied (report : Report α) : List Text :=
  (report.constraints.filter fun constraint => !constraint.satisfied).map (·.name)

end Report

/-- A solve: the run, the store afterwards, and the report unless writing back failed. -/
structure Solved (α : Type) where
  freedom : Freedom
  outcome : Outcome α
  store : Store α
  report : Except (Error α) (Report α)

namespace Store

/-- The relations about directions that refer to something without one. -/
def directionNotices (store : Store α) : List (Notice α) :=
  store.constraints.flatMap fun constraint =>
    if constraint.kind.isDirectional then
      constraint.relation.refs.filterMap fun name =>
        match store.entity? name with
        | some entity =>
          if entity.isLine then none
          else some (.noDirection constraint.name constraint.kind entity.kind name)
        | none => none
    else []

/-- What the count of a store draws attention to. -/
def freedomNotices (store : Store α) : List (Notice α) :=
  if store.freedom.isOver then [.overConstrained store.freedom] else []

variable [Scalar α]

/-- Whether a residual is within a tolerance. -/
def within (residual tolerance : α) : Bool := Scalar.lt (Scalar.abs residual) tolerance

/-- How the constraints of a store stand at given values. -/
def constraintReports (layout : Layout α) (values : Array α) (store : Store α) :
    List (ConstraintReport α) :=
  List.zipWith
    (fun constraint bound =>
      let residual := Bound.residual values bound
      { name := constraint.name, residual, satisfied := within residual constraint.tolerance })
    store.constraints layout.bound.toList

/-- Notes in each constraint whether it is satisfied. -/
def noteSatisfied (store : Store α) (reports : List (ConstraintReport α)) : Store α :=
  { store with
    constraints := List.zipWith
      (fun (constraint : Constraint α) (report : ConstraintReport α) =>
        { constraint with satisfied := Json.bool report.satisfied })
      store.constraints reports }

end Store

/-- What the end of a run draws attention to. -/
def Outcome.endingNotices (outcome : Outcome α) : List (Notice α) :=
  match outcome.ending with
  | .converged => []
  | .exhausted => [.notConverged outcome.residual]
  | .failed cause => [.failed cause]
  | .cancelled => [.cancelled outcome.iterations]

/-- What skipped pivots draw attention to, when there is no limit on them. -/
def Outcome.deficiencyNotices (outcome : Outcome α) (settings : Settings α) : List (Notice α) :=
  if outcome.deficiency ≠ 0 ∧ settings.deficiencyLimit.isNone then
    [.skippedPivots outcome.deficiency]
  else []

/-- Solves a store with given settings, formulas and answers to whether the run should stop. -/
def Store.solve [Scalar α] (store : Store α) (settings : Settings α) (formulas : Formulas α)
    (polls : Nat → Bool) : Except (Error α) (Solved α) := do
  let layout ← Layout.ofStore store
  let outcome := Newton.run { layout, settings, formulas } polls store.parameters.toArray
  let (written, moved) := layout.writeBack outcome.values layout.freeNames store
  match written with
  | .error error =>
    return { freedom := store.freedom, outcome, store := moved, report := .error error }
  | .ok () =>
    let reports := moved.constraintReports layout outcome.values
    let solved := moved.noteSatisfied reports
    return {
      freedom := store.freedom
      outcome
      store := solved
      report := .ok {
        freedom := store.freedom
        ending := outcome.ending
        iterations := outcome.iterations
        residual := outcome.residual
        history := outcome.history.toList
        deficiency := outcome.deficiency
        entities := solved.entities
        constraints := reports
        notices := store.freedomNotices ++ store.directionNotices ++ outcome.endingNotices ++
          outcome.deficiencyNotices settings } }

def Store.residuals [Scalar α] (store : Store α) : Except (Error α) (List α) := do
  let layout ← Layout.ofStore store
  return (layout.residuals store.parameters.toArray).toList

/-- The matrix of derivatives at a store's own parameters. -/
def Store.jacobian [Scalar α] (store : Store α) (mode : DerivativeMode) (epsilon : α)
    (formulas : Formulas α) : Except (Error α) ((m : Nat) × (n : Nat) × Jacobian.Filling m n α) :=
  do
  let layout ← Layout.ofStore store
  return ⟨layout.equations, layout.unknowns,
    Jacobian.fill layout mode epsilon formulas store.parameters.toArray none⟩

end PlanarSketch
