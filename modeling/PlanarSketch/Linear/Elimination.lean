import PlanarSketch.Linear.Dense

/-!
# Elimination

A square system is solved on the matrix extended by the right side. For each column in turn, the row
with the largest entry of that column, among the rows from the diagonal down, is brought to the
diagonal, and multiples of it are taken from the rows below. A column whose largest entry is below
the pivot tolerance is skipped, and its unknown is left at zero. Then the unknowns are found from
the last to the first.
-/

set_option autoImplicit false

namespace PlanarSketch

namespace Elimination

variable {n : Nat} {α : Type} [Scalar α]

/-- Whether a candidate for the largest entry replaces the one held: it is larger, or it is
undefined and the one held is not. -/
def replaces (candidate held : α) : Bool :=
  Scalar.lt held candidate || (Scalar.isUndefined candidate && !Scalar.isUndefined held)

/-- The row, from the diagonal down, with the largest entry in a column; the first of several. -/
def pivotRow (a : Dense n (n + 1) α) (i : Fin n) : Fin n :=
  (List.finRange n).foldl
    (fun held k =>
      if i.val < k.val ∧ replaces (Scalar.abs (a.entry k i.castSucc))
        (Scalar.abs (a.entry held i.castSucc))
      then k else held)
    i

def swapRows (a : Dense n (n + 1) α) (i k : Fin n) : Dense n (n + 1) α :=
  Vector.ofFn fun r => if r = i then a.get k else if r = k then a.get i else a.get r

/-- Takes multiples of row `i` from the rows below, so that column `i` vanishes there. -/
def clearBelow (a : Dense n (n + 1) α) (i : Fin n) : Dense n (n + 1) α :=
  Vector.ofFn fun k =>
    if i.val < k.val then
      let factor := a.entry k i.castSucc / a.entry i i.castSucc
      Vector.ofFn fun j =>
        if i.val ≤ j.val then a.entry k j - factor * a.entry i j else a.entry k j
    else a.get k

/-- Whether the diagonal entry of a row counts as zero. -/
def isSkipped (tolerance : α) (a : Dense n (n + 1) α) (i : Fin n) : Bool :=
  Scalar.lt (Scalar.abs (a.entry i i.castSucc)) tolerance

/-- The matrix so far and the number of columns skipped. -/
structure State (n : Nat) (α : Type) where
  matrix : Dense n (n + 1) α
  skipped : Nat

/-- Treats one column. -/
def step (tolerance : α) (state : State n α) (i : Fin n) : State n α :=
  let swapped := swapRows state.matrix i (pivotRow state.matrix i)
  if isSkipped tolerance swapped i then ⟨swapped, state.skipped + 1⟩
  else ⟨clearBelow swapped i, state.skipped⟩

/-- The matrix extended by the right side as last column. -/
def extended (a : Dense n n α) (b : Vector α n) : Dense n (n + 1) α :=
  Vector.ofFn fun i => (a.get i).push (b.get i)

/-- Treats all columns from the first to the last. -/
def forward (tolerance : α) (a : Dense n n α) (b : Vector α n) : State n α :=
  (List.finRange n).foldl (step tolerance) ⟨extended a b, 0⟩

/-- What row `i` says about its unknown when the later unknowns are known. -/
def unknown (a : Dense n (n + 1) α) (x : Vector α n) (i : Fin n) : α :=
  let later := (List.finRange n).filter fun j => i.val < j.val
  let known := Scalar.sum (later.map fun j => a.entry i j.castSucc * x.get j)
  (a.entry i (Fin.last n) - known) / a.entry i i.castSucc

/-- Finds the unknown of one row. -/
def substitute (tolerance : α) (a : Dense n (n + 1) α) (x : Vector α n) (i : Fin n) :
    Vector α n :=
  if isSkipped tolerance a i then x else x.set i.val (unknown a x i) i.isLt

/-- Finds the unknowns from the last to the first, starting from zero. -/
def backward (tolerance : α) (a : Dense n (n + 1) α) : Vector α n :=
  (List.finRange n).reverse.foldl (substitute tolerance a) (Vector.replicate n Scalar.zero)

end Elimination

/-- A solution and the number of columns skipped on the way to it. -/
structure Eliminated (n : Nat) (α : Type) where
  solution : Vector α n
  skipped : Nat

/-- Solves a square system by elimination. -/
def eliminate {n : Nat} {α : Type} [Scalar α] (tolerance : α) (a : Dense n n α) (b : Vector α n) :
    Eliminated n α :=
  let state := Elimination.forward tolerance a b
  ⟨Elimination.backward tolerance state.matrix, state.skipped⟩

end PlanarSketch
