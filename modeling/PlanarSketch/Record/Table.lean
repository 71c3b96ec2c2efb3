import PlanarSketch.Json.Arithmetic
import PlanarSketch.Linear.Table

/-!
# Tables given as values

A table is given by nested lists, and a single number is a table without directions. All lists at
one depth must have one size; otherwise the sizes are known only down to the depth where they
differ. A table has at most 64 directions. An entry is read as any number is, and an absent one is
undefined.
-/

set_option autoImplicit false

namespace PlanarSketch

namespace Table

/-- What is known about the sizes of nested lists: those that all lists share, and whether these are
all. -/
structure Nesting where
  common : List Nat
  regular : Bool

namespace Nesting

/-- The sizes at the front that two lists of sizes share. -/
def shared : List Nat → List Nat → List Nat
  | m :: rest, n :: others => if m = n then m :: shared rest others else []
  | _, _ => []

/-- What two items of one list share. -/
def meet (a b : Nesting) : Nesting :=
  ⟨shared a.common b.common, a.regular && b.regular && a.common == b.common⟩

/-- The nesting of a list with items of given nestings. -/
def around : List Nesting → Nesting
  | [] => ⟨[0], true⟩
  | first :: rest =>
    let items := rest.foldl meet first
    ⟨(rest.length + 1) :: items.common, items.regular⟩

end Nesting

mutual

/-- The nesting of a value. -/
def nesting : Json → Nesting
  | .arr items => .around (itemNestings items)
  | _ => ⟨[], true⟩

/-- The nestings of the items of a list. -/
def itemNestings : List Json → List Nesting
  | [] => []
  | item :: rest => nesting item :: itemNestings rest

end

/-- How many directions a table can have. -/
def maxDirections : Nat := 64

/-- The sizes of a nested list that is a table. -/
def sizes (value : Json) : Except ExtentError (List Nat) :=
  let found := nesting value
  if found.regular && found.common.length ≤ maxDirections then .ok found.common
  else if found.common.length < maxDirections then .error (.ragged found.common)
  else .error (.tooDeep maxDirections)

mutual

/-- The values that a nested list holds, from the first to the last. -/
def leaves : Json → List Json
  | .arr items => itemLeaves items
  | value => [value]

/-- The values that the items of a list hold. -/
def itemLeaves : List Json → List Json
  | [] => []
  | item :: rest => leaves item ++ itemLeaves rest

end

/-- A value as an entry of a table. -/
def entry : Json → Except (Error Float) Float
  | .null => .ok Binary64.undefined
  | value => value.toDouble

/-- The table of a value. -/
def ofJson (value : Json) : Except (Error Float) (Table Float) := do
  let extent ← (sizes value).mapError .extent
  return ⟨extent, (← (leaves value).mapM entry).toArray⟩

end Table

end PlanarSketch
