import PlanarSketch.Text.Basic

/-!
# Named records in order

A ledger is a list of records, each filed under its own name. Filing a record under a name that is
taken replaces the earlier one in its place; otherwise it comes last. So the order of a ledger is
the order in which its names first appeared.
-/

set_option autoImplicit false

namespace PlanarSketch

/-- Records with a name. -/
class Named (β : Type) where
  /-- The name a record is filed under. -/
  name : β → Text

namespace Ledger

variable {β : Type} [Named β]

def names (records : List β) : List Text := records.map Named.name

def find? (name : Text) (records : List β) : Option β :=
  records.find? fun record => Named.name record == name

def contains (name : Text) (records : List β) : Bool :=
  records.any fun record => Named.name record == name

/-- Files a record: in the place of the one with its name, or at the end. -/
def file (record : β) : List β → List β
  | [] => [record]
  | other :: rest =>
    if Named.name other = Named.name record then record :: rest else other :: file record rest

def erase (name : Text) (records : List β) : List β :=
  records.filter fun record => Named.name record != name

/-- Changes the record with a name. -/
def modify (name : Text) (change : β → β) (records : List β) : List β :=
  records.map fun record => if Named.name record = name then change record else record

/-- A name is taken exactly when it is among the names. -/
theorem contains_iff (name : Text) (records : List β) :
    contains name records = true ↔ name ∈ names records := by
  simp [contains, names]

/-- Filing adds the record's name and no other. -/
theorem mem_names_file (record : β) (records : List β) (name : Text) :
    name ∈ names (file record records) ↔ name = Named.name record ∨ name ∈ names records := by
  induction records with
  | nil => simp [file, names]
  | cons other rest ih =>
    simp only [names] at ih
    by_cases same : Named.name other = Named.name record
    · simp [file, names, same]
    · simp only [file, names, same, ↓reduceIte, List.map_cons, List.mem_cons, ih]
      constructor
      · rintro (rfl | rfl | member)
        · exact .inr (.inl rfl)
        · exact .inl rfl
        · exact .inr (.inr member)
      · rintro (rfl | rfl | member)
        · exact .inr (.inl rfl)
        · exact .inl rfl
        · exact .inr (.inr member)

end Ledger

end PlanarSketch
