import PlanarSketch.Scalar

/-!
# Dense matrices

A matrix is stored row by row. Every operation builds its result entry by entry, so an entry of a
result is a formula in the entries of the arguments.
-/

set_option autoImplicit false

namespace PlanarSketch

/-- A matrix with `m` rows and `n` columns. -/
abbrev Dense (m n : Nat) (α : Type) := Vector (Vector α n) m

namespace Dense

variable {m n : Nat} {α : Type}

/-- The matrix with given entries. -/
def ofFn (entry : Fin m → Fin n → α) : Dense m n α :=
  Vector.ofFn fun i => Vector.ofFn fun j => entry i j

def entry (a : Dense m n α) (i : Fin m) (j : Fin n) : α := (a.get i).get j

@[simp] theorem entry_ofFn (f : Fin m → Fin n → α) (i : Fin m) (j : Fin n) :
    (ofFn f).entry i j = f i j := by
  simp only [entry, ofFn, Vector.get, Vector.toArray_ofFn, Array.getElem_ofFn]
  rfl

/-- Matrices with the same entries are the same. -/
theorem ext_entry {a b : Dense m n α} (same : ∀ i j, a.entry i j = b.entry i j) : a = b :=
  Vector.ext fun i within => Vector.ext fun j inner => same ⟨i, within⟩ ⟨j, inner⟩

def transpose (a : Dense m n α) : Dense n m α := ofFn fun i j => a.entry j i

theorem entry_transpose (a : Dense m n α) (i : Fin n) (j : Fin m) :
    a.transpose.entry i j = a.entry j i :=
  entry_ofFn _ i j

def toLists (a : Dense m n α) : List (List α) := a.toList.map Vector.toList

variable [Scalar α]

/-- The scalar product of two vectors, added up from the left. -/
def dot (x y : Vector α n) : α :=
  Scalar.sum ((List.finRange n).map fun k => x.get k * y.get k)

/-- The product of a matrix with a vector. -/
def apply (a : Dense m n α) (x : Vector α n) : Vector α m := Vector.ofFn fun i => dot (a.get i) x

/-- The scalar products of all pairs of rows. -/
def gram (a : Dense m n α) : Dense m m α := ofFn fun i j => dot (a.get i) (a.get j)

/-- Whether every entry is finite. -/
def isFinite (a : Dense m n α) : Bool := a.toList.all fun row => row.toList.all Scalar.isFinite

end Dense

end PlanarSketch
