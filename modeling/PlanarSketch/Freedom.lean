import PlanarSketch.Json.Basic
import PlanarSketch.Store

/-!
# Counting freedom

Each entity that is not fixed brings its parameters as unknowns, and each constraint takes one away.
The count alone does not decide whether a sketch can be solved; it tells whether there are more
constraints than unknowns.
-/

set_option autoImplicit false

namespace PlanarSketch

/-- How the number of equations compares with the number of unknowns. -/
inductive FreedomClass where
  | underConstrained
  | wellConstrained
  | overConstrained
deriving DecidableEq, Repr

def FreedomClass.name : FreedomClass → String
  | underConstrained => "under-constrained"
  | wellConstrained => "well-constrained"
  | overConstrained => "over-constrained"

/-- A class with its counts, in words. -/
def FreedomClass.describe (classification : FreedomClass) (unknowns equations : String) : String :=
  s!"System is {classification.name}: {equations} constraint equation(s) for {unknowns} free " ++
    "parameter(s)"

/-- The record of a class with its counts. -/
def FreedomClass.toJson (classification : FreedomClass) (unknowns equations : Json) : Json :=
  .obj [
    ("freeParameters", unknowns),
    ("equations", equations),
    ("classification", .str classification.name)]

/-- The count of unknowns and equations. -/
structure Freedom where
  unknowns : Int
  equations : Int
deriving DecidableEq, Repr

namespace Freedom

def classification (freedom : Freedom) : FreedomClass :=
  if freedom.unknowns < freedom.equations then .overConstrained
  else if freedom.equations < freedom.unknowns then .underConstrained
  else .wellConstrained

/-- Unknowns left over; negative when there are more equations. -/
def remaining (freedom : Freedom) : Int := freedom.unknowns - freedom.equations

def isOver (freedom : Freedom) : Bool := freedom.classification = .overConstrained

def isUnder (freedom : Freedom) : Bool := freedom.classification = .underConstrained

def describe (freedom : Freedom) : String :=
  freedom.classification.describe (Json.intText freedom.unknowns) (Json.intText freedom.equations)

def toJson (freedom : Freedom) : Json :=
  freedom.classification.toJson (.int freedom.unknowns) (.int freedom.equations)

end Freedom

def Store.freeParameters {α : Type} (store : Store α) : Nat :=
  (store.entities.filter fun entity => !entity.fixed).foldr
    (fun entity total => entity.arity + total) 0

/-- The count of a store. -/
def Store.freedom {α : Type} (store : Store α) : Freedom :=
  ⟨store.freeParameters, store.constraints.length⟩

end PlanarSketch
