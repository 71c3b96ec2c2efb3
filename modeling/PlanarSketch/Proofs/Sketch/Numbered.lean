import Mathlib.Data.List.Nodup
import Mathlib.Data.List.Perm.Subperm
import PlanarSketch.Session

/-!
# Numbered names

A name that is made up is a stem with a number behind it. The stems have no digits, so stem and
number can be told apart again (`Sketch.numberedName_inj`).

The number is found by counting on from the number last used for as long as the name is taken
(`Sketch.Search`). Counting ends, since a sketch has more numbers to offer than records, and it ends
with the number that is then used (`Sketch.search_nextNumber`).
-/

set_option autoImplicit false

namespace PlanarSketch

/-! ## Stems and numbers -/

def CodePoint.isDigit : CodePoint → Bool
  | char c => c.isDigit
  | surrogate _ => false

/-- A text without digits. -/
def Text.IsStem (stem : Text) : Prop := ∀ point ∈ stem.points, point.isDigit = false

theorem ShapeKind.isStem (kind : ShapeKind) : (Text.ofString kind.stem).IsStem := by
  unfold Text.IsStem
  cases kind <;> decide

theorem RelationKind.isStem (kind : RelationKind) : (Text.ofString kind.stem).IsStem := by
  unfold Text.IsStem
  cases kind <;> decide

namespace Sketch

theorem points_numberedName (stem : Text) (number : Nat) :
    (numberedName stem number).points = stem.points ++ (Nat.toDigits 10 number).map .char := by
  simp [numberedName, Text.ofString]

theorem numberedName_injective (stem : Text) : Function.Injective (numberedName stem) := by
  intro number number' same
  have points := congrArg Text.points same
  rw [points_numberedName, points_numberedName] at points
  have digits : Nat.toDigits 10 number = Nat.toDigits 10 number' :=
    (List.map_inj_right fun _ _ equal => CodePoint.char.inj equal).mp
      (List.append_cancel_left points)
  calc
    number = Nat.ofDigitChars 10 (Nat.toDigits 10 number) 0 := Nat.ofDigitChars_ten_toDigits.symm
    _ = Nat.ofDigitChars 10 (Nat.toDigits 10 number') 0 := by rw [digits]
    _ = number' := Nat.ofDigitChars_ten_toDigits

/-- The stem is what stands before the first digit. -/
theorem takeWhile_numberedName {stem : Text} (isStem : stem.IsStem) (number : Nat) :
    (numberedName stem number).points.takeWhile (fun point => !point.isDigit) = stem.points := by
  have front : ∀ point ∈ stem.points, (!point.isDigit) = true := by
    intro point member
    rw [isStem point member]
    rfl
  rw [points_numberedName, List.takeWhile_append_of_pos front]
  cases digits : Nat.toDigits 10 number with
  | nil => exact absurd digits Nat.toDigits_ne_nil
  | cons first rest =>
      have digit : first.isDigit = true :=
        Nat.isDigit_of_mem_toDigits (by decide) (by decide) (digits ▸ List.mem_cons_self)
      simp [CodePoint.isDigit, digit]

/-- **A numbered name tells its stem and its number.** -/
theorem numberedName_inj {stem stem' : Text} (isStem : stem.IsStem) (isStem' : stem'.IsStem)
    {number number' : Nat} (same : numberedName stem number = numberedName stem' number') :
    stem = stem' ∧ number = number' := by
  have points : stem.points = stem'.points := by
    rw [← takeWhile_numberedName isStem number, same, takeWhile_numberedName isStem' number']
  obtain rfl : stem = stem' := congrArg Text.mk points
  exact ⟨rfl, numberedName_injective stem same⟩

/-! ## Looking for a free number -/

variable {sketch : Sketch} {stem : Text}

theorem isTaken_iff (name : Text) : sketch.isTaken name = true ↔
    name ∈ Ledger.names sketch.store.entities ++ Ledger.names sketch.store.constraints := by
  rw [isTaken, Bool.or_eq_true, List.mem_append]
  exact or_congr (Ledger.contains_iff _ _) (Ledger.contains_iff _ _)

/-- A name that neither an entity nor a constraint has. -/
def IsFree (sketch : Sketch) (name : Text) : Prop :=
  name ∉ Ledger.names sketch.store.entities ∧ name ∉ Ledger.names sketch.store.constraints

theorem isFree_iff {name : Text} : sketch.IsFree name ↔ sketch.isTaken name = false := by
  rw [IsFree, ← not_or, ← List.mem_append, ← isTaken_iff, Bool.not_eq_true]

/-- Counting on from a number, as long as the name is taken, ends with a number. -/
inductive Search (sketch : Sketch) (stem : Text) : Nat → Nat → Prop where
  | stop {number : Nat} (free : sketch.isTaken (numberedName stem number) = false) :
      Search sketch stem number number
  | next {number last : Nat} (taken : sketch.isTaken (numberedName stem number) = true)
      (later : Search sketch stem (number + 1) last) : Search sketch stem number last

theorem Search.le {first last : Nat} (search : Search sketch stem first last) : first ≤ last := by
  induction search with
  | stop => exact Nat.le_refl _
  | next _ _ ih => omega

theorem Search.free {first last : Nat} (search : Search sketch stem first last) :
    sketch.isTaken (numberedName stem last) = false := by
  induction search with
  | stop free => exact free
  | next _ _ ih => exact ih

theorem search_of_taken {first : Nat} (more : Nat)
    (taken : ∀ number, first ≤ number → number < first + more →
      sketch.isTaken (numberedName stem number) = true)
    (free : sketch.isTaken (numberedName stem (first + more)) = false) :
    Search sketch stem first (first + more) := by
  induction more generalizing first with
  | zero => exact .stop free
  | succ more ih =>
      have shifted : first + 1 + more = first + (more + 1) := by omega
      refine .next (taken first (Nat.le_refl _) (by omega)) ?_
      rw [← shifted] at free taken ⊢
      exact ih (fun number above below => taken number (by omega) below) free

/-- Among more numbers than there are records, one gives a free name. -/
theorem exists_free (sketch : Sketch) (stem : Text) (first : Nat) :
    ∃ number ∈ List.range' first
        (sketch.store.entities.length + sketch.store.constraints.length + 1),
      sketch.isTaken (numberedName stem number) = false := by
  by_contra none
  push Not at none
  -- Otherwise as many different names are taken as numbers are tried.
  have distinct : ((List.range' first (sketch.store.entities.length +
      sketch.store.constraints.length + 1)).map (numberedName stem)).Nodup :=
    List.Nodup.map (numberedName_injective stem) List.nodup_range'
  have among : (List.range' first (sketch.store.entities.length +
      sketch.store.constraints.length + 1)).map (numberedName stem) ⊆
        Ledger.names sketch.store.entities ++ Ledger.names sketch.store.constraints := by
    intro name member
    obtain ⟨number, tried, rfl⟩ := List.mem_map.mp member
    exact (isTaken_iff _).mp (Bool.of_not_eq_false (none number tried))
  have short := (distinct.subperm among).length_le
  simp only [List.length_map, List.length_range', List.length_append, Ledger.names] at short
  omega

/-- **Looking for a number ends with the one that is used next.** -/
theorem search_nextNumber (sketch : Sketch) (stem : Text) :
    Search sketch stem (sketch.lastNumber stem + 1) (sketch.nextNumber stem) := by
  obtain ⟨number, tried, free⟩ := exists_free sketch stem (sketch.lastNumber stem + 1)
  cases found : (List.range' (sketch.lastNumber stem + 1)
      (sketch.store.entities.length + sketch.store.constraints.length + 1)).find?
        fun number => !sketch.isTaken (numberedName stem number) with
  | none =>
      have taken := List.find?_eq_none.mp found number tried
      rw [free] at taken
      exact absurd rfl taken
  | some first =>
      rw [nextNumber, found, Option.getD_some]
      obtain ⟨isFree, within, before⟩ := List.find?_range'_eq_some.mp found
      obtain ⟨more, rfl⟩ := Nat.exists_eq_add_of_le (List.mem_range'_1.mp within).1
      refine search_of_taken more (fun earlier above below => ?_) (by simpa using isFree)
      simpa using before earlier above below

theorem lt_nextNumber (sketch : Sketch) (stem : Text) :
    sketch.lastNumber stem < sketch.nextNumber stem :=
  (search_nextNumber sketch stem).le

/-! ## Numbers used -/

@[simp] theorem lastNumber_setNumber_self (sketch : Sketch) (stem : Text) (number : Nat) :
    (sketch.setNumber stem number).lastNumber stem = number := by
  simp [lastNumber, setNumber]

theorem lastNumber_setNumber_of_ne (sketch : Sketch) {stem other : Text} (different : other ≠ stem)
    (number : Nat) : (sketch.setNumber stem number).lastNumber other = sketch.lastNumber other := by
  simp only [lastNumber, setNumber]
  rw [List.find?_cons_of_neg (by simpa using different.symm), List.find?_filter]
  congr 3
  funext counter
  by_cases here : counter.1 = other <;> simp [here, different]

theorem le_lastNumber_setNumber (sketch : Sketch) (stem other : Text) :
    sketch.lastNumber other ≤
      (sketch.setNumber stem (sketch.nextNumber stem)).lastNumber other := by
  by_cases same : other = stem
  · rw [same, lastNumber_setNumber_self]
    exact Nat.le_of_lt (lt_nextNumber sketch stem)
  · exact Nat.le_of_eq (lastNumber_setNumber_of_ne sketch same _).symm

end Sketch

end PlanarSketch
