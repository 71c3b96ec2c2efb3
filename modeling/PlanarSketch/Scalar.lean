/-!
# The numbers a sketch is solved with

Everything the solver computes — lengths, angles, difference quotients, eliminations, norms — is
written once, over the operations of the class `Scalar`. The operations are those of a computing
number type: comparisons answer a `Bool`, a number may fail to equal itself, and a number may be
infinite or undefined, which `isFinite` tells apart from the rest.

Two readings matter. Double-precision numbers run (`PlanarSketch.Binary64`); the real numbers, where
every number is finite and comparisons are the usual ones, are the exact reading of the same
definitions.
-/

set_option autoImplicit false

namespace PlanarSketch

/-- The operations of a number type in which sketches are measured and solved. -/
class Scalar (α : Type) extends Add α, Sub α, Mul α, Div α, Neg α where
  /-- A counting number as a scalar. -/
  ofNat : Nat → α
  abs : α → α
  sqrt : α → α
  /-- The length of the vector with the given two components. -/
  hypot : α → α → α
  /-- The angle in `[0, π]` with the given cosine. -/
  arccos : α → α
  /-- Half a turn in radians. -/
  pi : α
  /-- Strictly less. An undefined number is neither less nor greater than any other. -/
  lt : α → α → Bool
  /-- Equal as numbers. An undefined number does not equal itself. -/
  same : α → α → Bool
  /-- Neither infinite nor undefined. -/
  isFinite : α → Bool

namespace Scalar

variable {α : Type} [Scalar α]

def zero : α := ofNat 0

def one : α := ofNat 1

def two : α := ofNat 2

/-- Equal to zero; both zeros of a signed format count. -/
def isZero (x : α) : Bool := same x zero

/-- An undefined number is the one that does not equal itself. -/
def isUndefined (x : α) : Bool := !same x x

/-- The smaller of `limit` and `x`; `limit` when `x` is undefined. -/
def atMost (limit x : α) : α := if lt x limit then x else limit

/-- The larger of `limit` and `x`; `limit` when `x` is undefined. -/
def atLeast (limit x : α) : α := if lt limit x then x else limit

/-- Degrees in radians. -/
def radians (degrees : α) : α := degrees * (pi / ofNat 180)

/-- The sum of a list, added up from the left. -/
def sum (xs : List α) : α := xs.foldl (· + ·) zero

/-- The Euclidean length of a list of components: the root of the sum of the squares. -/
def norm (xs : List α) : α := sqrt (sum (xs.map fun x => x * x))

end Scalar

end PlanarSketch
