import Mathlib.Data.List.Nodup
import PlanarSketch.Ledger

/-!
# Ledgers whose names are distinct

Filing, erasing and changing records keep names distinct. With distinct names a record is found
under its own name (`Ledger.find?_of_mem`), and changing the record with a name changes that one and
no other (`Ledger.modify_middle`).
-/

set_option autoImplicit false

namespace PlanarSketch

namespace Ledger

variable {β : Type} [Named β]

/-- No name is taken twice. -/
def Distinct (records : List β) : Prop := (names records).Nodup

/-- With distinct names, the name of a record is none of those around it. -/
theorem notMem_of_distinct {before after : List β} {record : β}
    (distinct : Distinct (before ++ record :: after)) :
    Named.name record ∉ names before ∧ Named.name record ∉ names after := by
  rw [Distinct, names, List.map_append, List.map_cons, List.nodup_middle, List.nodup_cons,
    List.mem_append, not_or] at distinct
  exact distinct.1

/-! ## Filing and erasing -/

theorem mem_file {record other : β} {records : List β} (member : other ∈ file record records) :
    other = record ∨ other ∈ records := by
  induction records with
  | nil => exact .inl (List.mem_singleton.mp member)
  | cons first rest ih =>
      rw [file] at member
      split at member
      · rcases List.mem_cons.mp member with here | later
        · exact .inl here
        · exact .inr (List.mem_cons_of_mem _ later)
      · rcases List.mem_cons.mp member with here | later
        · exact .inr (here ▸ List.mem_cons_self)
        · rcases ih later with here | later
          · exact .inl here
          · exact .inr (List.mem_cons_of_mem _ later)

theorem distinct_file (record : β) {records : List β} (distinct : Distinct records) :
    Distinct (file record records) := by
  induction records with
  | nil => simp [Distinct, file, names]
  | cons first rest ih =>
      obtain ⟨fresh, distinctRest⟩ := List.nodup_cons.mp distinct
      rw [file]
      split
      case isTrue same =>
        refine List.nodup_cons.mpr ⟨?_, distinctRest⟩
        rw [← same]
        exact fresh
      case isFalse different =>
        refine List.nodup_cons.mpr ⟨?_, ih distinctRest⟩
        intro member
        rcases (mem_names_file record rest _).mp member with same | later
        · exact different same
        · exact fresh later

theorem distinct_erase (name : Text) {records : List β} (distinct : Distinct records) :
    Distinct (erase name records) :=
  distinct.sublist (List.filter_sublist.map _)

theorem mem_names_erase {name other : Text} {records : List β} (member : other ∈ names records)
    (different : other ≠ name) : other ∈ names (erase name records) := by
  obtain ⟨record, present, rfl⟩ := List.mem_map.mp member
  refine List.mem_map_of_mem (List.mem_filter.mpr ⟨present, ?_⟩)
  simpa using different

theorem erase_of_notMem {name : Text} {records : List β} (absent : name ∉ names records) :
    erase name records = records := by
  refine List.filter_eq_self.mpr fun record member => ?_
  have different : Named.name record ≠ name := by
    rintro rfl
    exact absent (List.mem_map_of_mem member)
  simpa using different

/-- With distinct names, erasing takes out one record and leaves those around it. -/
theorem erase_middle {before after : List β} {record : β}
    (distinct : Distinct (before ++ record :: after)) :
    erase (Named.name record) (before ++ record :: after) = before ++ after := by
  obtain ⟨absentBefore, absentAfter⟩ := notMem_of_distinct distinct
  have front := erase_of_notMem absentBefore
  have back := erase_of_notMem absentAfter
  rw [erase] at front back ⊢
  rw [List.filter_append, List.filter_cons_of_neg (by simp), front, back]

/-! ## Finding and changing -/

theorem mem_of_find? {name : Text} {record : β} {records : List β}
    (found : find? name records = some record) : record ∈ records ∧ Named.name record = name :=
  ⟨List.mem_of_find?_eq_some found, by simpa using List.find?_some found⟩

theorem find?_of_mem_names {name : Text} {records : List β} (member : name ∈ names records) :
    ∃ record, find? name records = some record := by
  obtain ⟨record, present, rfl⟩ := List.mem_map.mp member
  refine Option.isSome_iff_exists.mp (List.find?_isSome.mpr ⟨record, present, ?_⟩)
  simp

/-- With distinct names a record is found under its own. -/
theorem find?_of_mem {record : β} {records : List β} (distinct : Distinct records)
    (member : record ∈ records) : find? (Named.name record) records = some record := by
  obtain ⟨other, found⟩ := find?_of_mem_names (List.mem_map_of_mem member)
  obtain ⟨present, same⟩ := mem_of_find? found
  rw [found, List.inj_on_of_nodup_map distinct present member same]

theorem modify_of_notMem {name : Text} {records : List β} (change : β → β)
    (absent : name ∉ names records) : modify name change records = records := by
  refine (List.map_congr_left ?_).trans records.map_id
  intro record member
  have different : Named.name record ≠ name := by
    rintro rfl
    exact absent (List.mem_map_of_mem member)
  rw [if_neg different, id]

/-- With distinct names, changing a record changes it in its place. -/
theorem modify_middle {before after : List β} {record : β} (change : β → β)
    (distinct : Distinct (before ++ record :: after)) :
    modify (Named.name record) change (before ++ record :: after) =
      before ++ change record :: after := by
  obtain ⟨absentBefore, absentAfter⟩ := notMem_of_distinct distinct
  have front := modify_of_notMem change absentBefore
  have back := modify_of_notMem change absentAfter
  rw [modify] at front back ⊢
  rw [List.map_append, List.map_cons, front, back, if_pos rfl]

end Ledger

end PlanarSketch
