import PlanarSketch.Linear.Spectrum
import PlanarSketch.Linear.Table

/-!
# The rank of a system

How many equations of a system are independent is seen from the singular values of its derivatives:
the rank is the number of values above a threshold. Unless one is given, the threshold is the
largest value times the larger size of the matrix times the spacing of doubles. What the rank leaves
over counts as redundant equations and as freedom that remains. The condition number compares the
largest and the smallest value; it is infinite when the rank is not full.

A threshold can be given as a table. The values are then combined with it, and what counts is how
often a value is above its threshold, which can be more often than there are values.
-/

set_option autoImplicit false

namespace PlanarSketch

/-- What is known about the rank of a matrix of derivatives. -/
structure Diagnosis (α : Type) where
  equations : Nat
  unknowns : Nat
  rank : Nat
  /-- The condition number; infinite when absent. -/
  condition : Option α

namespace Diagnosis

variable {α : Type}

/-- Equations that add nothing to the others. -/
def redundantEquations (diagnosis : Diagnosis α) : Int := diagnosis.equations - diagnosis.rank

/-- Unknowns that the equations leave open. -/
def effectiveFreedom (diagnosis : Diagnosis α) : Int := diagnosis.unknowns - diagnosis.rank

/-- Whether the rank is as large as the sizes allow. -/
def isFullRank (diagnosis : Diagnosis α) : Bool :=
  diagnosis.rank = min diagnosis.equations diagnosis.unknowns

variable [Scalar α]

/-- The threshold for the singular values of a matrix of given sizes, unless another one is
given. -/
def standardThreshold (m n : Nat) (spectrum : List α) : α :=
  Scalar.ofNat (max m n) * Spectrum.negligible * spectrum.head?.getD Scalar.zero

/-- How many singular values are above a threshold. -/
def countAbove (threshold : α) (spectrum : List α) : Nat :=
  (spectrum.filter fun value => Scalar.lt threshold value).length

/-- How often singular values are above the thresholds of a table. -/
def countAboveTable (thresholds : Table α) (spectrum : List α) : Except ExtentError Nat := do
  let verdicts ← Table.combine (fun value threshold => Scalar.lt threshold value)
    (Table.ofList spectrum) thresholds
  return (verdicts.entries.toList.filter id).length

/-- The diagnosis of a matrix of given sizes from its singular values in descending order and its
rank. -/
def ofRank (m n : Nat) (spectrum : List α) (rank : Nat) : Diagnosis α :=
  let largest := spectrum.head?.getD Scalar.zero
  let smallest := spectrum.getLast?.getD Scalar.zero
  { equations := m
    unknowns := n
    rank
    condition :=
      if rank < min m n ∨ Scalar.isZero smallest then none else some (largest / smallest) }

/-- The diagnosis of a matrix of given sizes from its singular values in descending order. -/
def ofSpectrum (m n : Nat) (spectrum : List α) : Diagnosis α :=
  ofRank m n spectrum (countAbove (standardThreshold m n spectrum) spectrum)

/-- The diagnosis of a matrix, with thresholds if some are given. Without equations or unknowns the
rank is zero; otherwise every entry must be finite. Thresholds that failed to be numbers count only
after that. -/
def ofMatrix {m n : Nat} (a : Dense m n α) (thresholds : Option (Except (Error α) (Table α))) :
    Except (Error α) (Diagnosis α) :=
  if m = 0 ∨ n = 0 then .ok ⟨m, n, 0, none⟩
  else if a.isFinite then
    let spectrum := Spectrum.singularValues a
    match thresholds with
    | none => .ok (ofSpectrum m n spectrum)
    | some thresholds => do
      let rank ← (countAboveTable (← thresholds) spectrum).mapError .extent
      return ofRank m n spectrum rank
  else .error .matrixNotFinite

end Diagnosis

end PlanarSketch
