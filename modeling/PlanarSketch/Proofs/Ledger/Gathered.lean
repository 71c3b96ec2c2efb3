import Mathlib.Data.List.Induction
import PlanarSketch.Proofs.Ledger.Distinct

/-!
# Filing one record after the other

Filing a record under a new name adds the name at the end, and under a name that is taken it changes
no name (`Ledger.names_file`). Afterwards the record is found under its name, and all others as
before (`Ledger.find?_file`).

So a ledger into which a list of records was filed has each name once, in the order of their first
occurrences in the list, and under each name the last record of the list that has it
(`Ledger.gathers_fileAll`).
-/

set_option autoImplicit false

namespace PlanarSketch

namespace Ledger

variable {β : Type} [Named β]

/-! ## Filing one record -/

theorem find?_cons (name : Text) (record : β) (rest : List β) :
    find? name (record :: rest) =
      if Named.name record = name then some record else find? name rest := by
  by_cases here : Named.name record = name <;> simp [find?, here]

theorem names_file (record : β) (records : List β) :
    names (file record records) =
      if Named.name record ∈ names records then names records else names records ++
        [Named.name record] := by
  induction records with
  | nil => rfl
  | cons other rest ih =>
      have here : names (other :: rest) = Named.name other :: names rest := rfl
      rw [file, here]
      by_cases same : Named.name other = Named.name record
      · rw [if_pos same, if_pos (by simp [same]), same]
        rfl
      · have onward :
            names (other :: file record rest) = Named.name other :: names (file record rest) :=
          rfl
        rw [if_neg same, onward, ih]
        by_cases taken : Named.name record ∈ names rest
        · rw [if_pos taken, if_pos (List.mem_cons_of_mem _ taken)]
        · have fresh : Named.name record ∉ Named.name other :: names rest := by
            simp [Ne.symm same, taken]
          rw [if_neg taken, if_neg fresh, List.cons_append]

theorem find?_file (name : Text) (record : β) (records : List β) :
    find? name (file record records) =
      if Named.name record = name then some record else find? name records := by
  induction records with
  | nil => exact find?_cons name record []
  | cons other rest ih =>
      rw [file]
      split
      case isTrue same =>
        rw [find?_cons, find?_cons, same]
        split <;> rfl
      case isFalse different =>
        rw [find?_cons, find?_cons, ih]
        by_cases here : Named.name other = name
        · have elsewhere : Named.name record ≠ name :=
            fun there => different (here.trans there.symm)
          rw [if_pos here, if_neg elsewhere, if_pos here]
        · rw [if_neg here, if_neg here]

/-! ## Filing many -/

/-- A ledger after filing some records, one after the other. -/
def fileAll (records ledger : List β) : List β :=
  records.foldl (fun ledger record => file record ledger) ledger

/-- A ledger that has the names of some records in the order of their first occurrences, and under
each name the last of the records that have it. -/
structure Gathers (records ledger : List β) : Prop where
  names : names ledger = (Ledger.names records).eraseDups
  last : ∀ name, find? name ledger = find? name records.reverse

theorem gathers_nil : Gathers ([] : List β) [] := ⟨rfl, fun _ => rfl⟩

/-- Filing one more record. -/
theorem Gathers.file {records ledger : List β} (gathers : Gathers records ledger) (record : β) :
    Gathers (records ++ [record]) (file record ledger) := by
  have listed : Ledger.names (records ++ [record]) = Ledger.names records ++ [Named.name record] :=
    List.map_append
  constructor
  · rw [names_file, gathers.names, listed, List.eraseDups_append]
    by_cases taken : Named.name record ∈ Ledger.names records
    · have nothing : [Named.name record].removeAll (Ledger.names records) = [] := by
        simp [List.removeAll, taken]
      rw [if_pos (List.mem_eraseDups.mpr taken), nothing, List.eraseDups_nil, List.append_nil]
    · have fresh : [Named.name record].removeAll (Ledger.names records) = [Named.name record] := by
        simp [List.removeAll, taken]
      rw [if_neg (mt List.mem_eraseDups.mp taken), fresh, List.eraseDups_cons, List.filter_nil,
        List.eraseDups_nil]
  · intro name
    rw [find?_file, gathers.last, List.reverse_append, List.reverse_singleton,
      List.singleton_append, find?_cons]

/-- **What filing a list of records gives.** -/
theorem gathers_fileAll (records : List β) : Gathers records (fileAll records []) := by
  -- From the front, since what is filed last decides.
  induction records using List.reverseRecOn with
  | nil => exact gathers_nil
  | append_singleton records record ih =>
      rw [fileAll, List.foldl_append]
      exact ih.file record

end Ledger

end PlanarSketch
