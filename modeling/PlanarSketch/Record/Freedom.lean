import PlanarSketch.Freedom
import PlanarSketch.Json.Arithmetic

/-!
# Counts given as values

The count of unknowns and the count of equations can be given as numbers of any form. They are
compared exactly and reported in the form they were given.
-/

set_option autoImplicit false

namespace PlanarSketch

/-- Counts of unknowns and equations as they were given. -/
structure GivenFreedom where
  unknowns : Number
  equations : Number

namespace GivenFreedom

/-- The class of given counts. Where a count is undefined, neither is larger. -/
def classification (freedom : GivenFreedom) : FreedomClass :=
  if freedom.unknowns.lt freedom.equations then .overConstrained
  else if freedom.equations.lt freedom.unknowns then .underConstrained
  else .wellConstrained

def remaining (freedom : GivenFreedom) : Except (Error Float) Number :=
  freedom.unknowns.sub freedom.equations

def describe (freedom : GivenFreedom) : String :=
  freedom.classification.describe freedom.unknowns.display freedom.equations.display

def toJson (freedom : GivenFreedom) : Json :=
  freedom.classification.toJson freedom.unknowns.toJson freedom.equations.toJson

/-- Counts from values. -/
def ofJson (unknowns equations : Json) : Except (Error Float) GivenFreedom := do
  return ⟨← unknowns.toNumber, ← equations.toNumber⟩

end GivenFreedom

namespace Freedom

/-- A count as given counts. -/
def given (freedom : Freedom) : GivenFreedom := ⟨.whole freedom.unknowns, .whole freedom.equations⟩

end Freedom

end PlanarSketch
