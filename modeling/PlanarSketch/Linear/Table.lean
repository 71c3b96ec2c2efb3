import PlanarSketch.Error
import PlanarSketch.Linear.Dense

/-!
# Tables of numbers of any extent

Numbers given from outside come as a table: the sizes in each direction and the entries, the last
direction running fastest. A table with two directions is a matrix, one with one direction is a
vector, and one without directions is a single number.

Two tables are combined entry by entry. Their directions are paired from the last one backwards; a
direction of size one, or one that only the other table has, is repeated as often as the other table
asks (`Table.combine`).
-/

set_option autoImplicit false

namespace PlanarSketch

/-- Numbers arranged in some number of directions. -/
structure Table (α : Type) where
  extent : List Nat
  entries : Array α

namespace Table

variable {α β γ : Type}

/-- How many entries a table of given sizes has. -/
def count (sizes : List Nat) : Nat := sizes.foldl (· * ·) 1

/-- A list as a table with one direction. -/
def ofList (entries : List α) : Table α := ⟨[entries.length], entries.toArray⟩

/-- The sizes of the combination of two tables. All sizes go from the last direction to the
first. -/
def commonSizes : List Nat → List Nat → Option (List Nat)
  | [], sizes => some sizes
  | sizes, [] => some sizes
  | m :: left, n :: right =>
    if m = n ∨ n = 1 then (commonSizes left right).map (m :: ·)
    else if m = 1 then (commonSizes left right).map (n :: ·)
    else none

/-- Where in a table of given sizes the entry for a place of a combination stands. All sizes go from
the last direction to the first. -/
def origin : List Nat → List Nat → Nat → Nat
  | size :: sizes, common :: rest, place =>
    (if size = 1 then 0 else place % common) + size * origin sizes rest (place / common)
  | _, _, _ => 0

/-- The entry of a table for a place of a combination with given sizes. -/
def entryFor (table : Table α) (common : List Nat) (place : Nat) : Option α :=
  table.entries[origin table.extent.reverse common.reverse place]?

/-- Combines two tables entry by entry. -/
def combine (f : α → β → γ) (a : Table α) (b : Table β) : Except ExtentError (Table γ) :=
  match commonSizes a.extent.reverse b.extent.reverse with
  | none => .error (.combination a.extent b.extent)
  | some sizes =>
    let common := sizes.reverse
    let entries := (List.range (count common)).filterMap fun place =>
      match a.entryFor common place, b.entryFor common place with
      | some x, some y => some (f x y)
      | _, _ => none
    .ok ⟨common, entries.toArray⟩

/-- Whether a table can be added to a vector of `n` components without making it grow. -/
def checkSum (n : Nat) (table : Table α) : Except ExtentError Unit :=
  match commonSizes [n] table.extent.reverse with
  | none => .error (.sum [n] table.extent)
  | some sizes => if sizes = [n] then .ok () else .error (.sumGrows [n] sizes.reverse)

/-- A table without directions as a number; a list cannot take the place of one. -/
def number (table : Table α) : Except ExtentError α :=
  match table.extent, table.entries[0]? with
  | [], some x => .ok x
  | _, _ => .error .sequence

/-- The one entry of a table that a decision is taken on. -/
def only (table : Table α) : Except ExtentError α :=
  match table.entries.toList with
  | [] => .error .undecided
  | [x] => .ok x
  | _ => .error .ambiguous

variable [Scalar α]

/-- The table of zeros with given sizes. -/
def zeros (extent : List Nat) : Table α := ⟨extent, Array.replicate (count extent) Scalar.zero⟩

/-- A table with two directions as a matrix. -/
def matrix? (table : Table α) : Option ((m : Nat) × (n : Nat) × Dense m n α) :=
  match table.extent with
  | [m, n] =>
    some ⟨m, n, Dense.ofFn fun i j => table.entries.getD (i.val * n + j.val) Scalar.zero⟩
  | _ => none

/-- A table as a matrix; it must have two directions. -/
def matrix (table : Table α) : Except (Error α) ((m : Nat) × (n : Nat) × Dense m n α) :=
  match table.matrix? with
  | some matrix => .ok matrix
  | none => .error (.partCount 2 table.extent.length)

/-- The first `n` entries of a table as a vector. -/
def vector (table : Table α) (n : Nat) : Vector α n :=
  Vector.ofFn fun i => table.entries.getD i.val Scalar.zero

/-- A table as a vector that can be added to one of `n` components. -/
def summand (table : Table α) (n : Nat) : Except ExtentError (Vector α n) := do
  table.checkSum n
  return Vector.ofFn fun i => (table.entryFor [n] i.val).getD Scalar.zero

end Table

end PlanarSketch
