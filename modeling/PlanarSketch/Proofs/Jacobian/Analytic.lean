import Mathlib
import PlanarSketch.Proofs.Jacobian.InPlace
import PlanarSketch.Proofs.Layout.Columns
import PlanarSketch.Proofs.Layout.Pinned

/-!
# Rows by formula

With formulas in use, a row of the matrix comes from the formula of its constraint, and has in each
column the sum of the partial derivatives listed for the column's slot
(`Layout.get_partialsRow_total`). Where there is no formula, or it has no derivative, the row is the
one of forward difference quotients. Only the second case is counted
(`Jacobian.fallbackRows_build`). Residuals that are handed over, if they are those at the values,
change nothing (`Jacobian.build_handed`).

`Jacobian.fill_analytic` puts this together for the flat view of any store, for formulas of one's
own over registered ones.
-/

set_option autoImplicit false

namespace PlanarSketch

variable {α : Type}

/-- Of formulas of one's own for a kind of relation the last is used, and where there is none the
one that was in use before. -/
theorem Formulas.updated_eq (formulas : Formulas α) (own : List (RelationKind × Formula α))
    (kind : RelationKind) :
    formulas.updated own kind =
      ((own.reverse.find? fun one => one.1 = kind).map Prod.snd).or (formulas kind) := by
  induction own generalizing formulas with
  | nil => rfl
  | cons one rest ih =>
      rw [updated, List.foldl_cons]
      refine (ih (formulas.register one.1 one.2)).trans ?_
      rw [List.reverse_cons, List.find?_append]
      cases rest.reverse.find? fun one => one.1 = kind with
      | some later => rfl
      | none =>
          by_cases here : one.1 = kind
          · simp [here, register]
          · simp [here, register, Ne.symm here]

variable [Scalar α]

/-- The sum of the partial derivatives listed for a slot, added up in the order of the list. -/
def Partials.total (partials : Partials α) (slot : Nat) : α :=
  Scalar.sum ((partials.filter fun known => known.1 = slot).map Prod.snd)

namespace Layout

variable {layout : Layout α}

/-- A row of partial derivatives has in each column the total for the column's slot. -/
theorem get_partialsRow_total (distinct : Function.Injective layout.slotAt) (partials : Partials α)
    (column : Fin layout.unknowns) :
    (Jacobian.partialsRow layout partials).get column = partials.total (layout.slotAt column) := by
  have blank : (Vector.replicate layout.unknowns (Scalar.zero : α)).get column = Scalar.zero :=
    Vector.getElem_replicate column.isLt
  rw [Partials.total, Scalar.sum, ← blank, Jacobian.partialsRow]
  generalize Vector.replicate layout.unknowns (Scalar.zero : α) = row
  -- On the derivatives listed, with what the earlier ones have added up to.
  induction partials generalizing row with
  | nil => rfl
  | cons known rest ih =>
      rw [List.foldl_cons, ih, List.filter_cons]
      cases found : layout.columnOf known.1 with
      | none =>
          have apart : known.1 ≠ layout.slotAt column := by
            intro here
            rw [(columnOf_eq_some_iff distinct).mpr here.symm] at found
            cases found
          rw [if_neg (by simpa using apart)]
      | some other =>
          have held := (columnOf_eq_some_iff distinct).mp found
          by_cases here : other = column
          · subst here
            rw [if_pos (by simpa using held.symm), List.map_cons, List.foldl_cons]
            congr 1
            exact Vector.getElem_set_self other.isLt
          · have apart : known.1 ≠ layout.slotAt column :=
              fun equal => here (distinct (held.trans equal))
            rw [if_neg (by simpa using apart)]
            congr 1
            exact Vector.getElem_set_ne other.isLt column.isLt (Fin.val_ne_of_ne here)

end Layout

namespace Jacobian

variable {layout : Layout α}

/-- Residuals at the values may be handed over or not. -/
theorem build_handed (layout : Layout α) (mode : DerivativeMode) (epsilon : α)
    (formulas : Formulas α) (values : Array α) :
    build layout mode epsilon formulas values (some (layout.residuals values)) =
      build layout mode epsilon formulas values none := by
  have same (i : Fin layout.bound.size) :
      residualAt layout values (some (layout.residuals values)) i =
        residualAt layout values none i :=
    Layout.get_residuals values i
  unfold build
  simp only [same]

/-- A constraint depends on an unknown, and its formula has no derivative at the values. -/
def FallsBack (formulas : Formulas α) (values : Array α) (bound : Bound α) : Prop :=
  bound.columns ≠ [] ∧ ∃ formula, formulas bound.kind = some formula ∧ formula values bound = none

omit [Scalar α] in
theorem isFallback_source_iff (formulas : Formulas α) (values : Array α) (bound : Bound α) :
    (source .analytic formulas values bound).isFallback = true ↔
      FallsBack formulas values bound := by
  unfold source FallsBack
  cases columns : bound.columns with
  | nil => simp [Source.isFallback]
  | cons column rest =>
      cases known : formulas bound.kind with
      | none => simp [Source.isFallback]
      | some formula => cases listed : formula values bound <;> simp [Source.isFallback, listed]

/-- The rows counted are those whose formula has no derivative. -/
theorem fallbackRows_build (layout : Layout α) (epsilon : α) (formulas : Formulas α)
    (values : Array α) (residuals : Option (Vector α layout.equations)) :
    (build layout .analytic epsilon formulas values residuals).fallbackRows =
      {i | FallsBack formulas values (layout.boundAt i)}.ncard := by
  classical
  have listed : layout.bound.toList = (List.finRange layout.equations).map layout.boundAt := by
    refine List.ext_getElem (by rw [List.length_map, List.length_finRange]; rfl) ?_
    intro k _ _
    simp [Layout.boundAt]
  have counted : (build layout .analytic epsilon formulas values residuals).fallbackRows =
      ((List.finRange layout.equations).filter fun i =>
        FallsBack formulas values (layout.boundAt i)).length := by
    rw [build]
    dsimp only
    rw [listed, List.map_map, List.filter_map, List.length_map]
    congr 2
    funext i
    exact Bool.eq_iff_iff.mpr ((isFallback_source_iff formulas values _).trans (by simp))
  rw [counted, Set.ncard_eq_toFinset_card',
    ← List.toFinset_card_of_nodup ((List.nodup_finRange _).filter _)]
  congr 1
  ext i
  simp

/-- **A matrix with formulas in use, row by row.** In the flat view of any store, with any formulas
of one's own over any registered ones, at any values: a row that can depend on an unknown has in
each column the total of the partial derivatives that its formula lists for the column's slot, or,
when there is no formula or it has no derivative, it is the row of forward difference quotients. The
rows counted are those with a formula that has no derivative. In every mode it is the same whether
the residuals at the values are handed over or not. -/
theorem fill_analytic {store : Store α} {layout : Layout α}
    (flat : Layout.ofStore store = .ok layout) (epsilon : α) (registered : Formulas α)
    (own : List (RelationKind × Formula α)) (values : Array α) :
    let formulas := registered.updated own
    let filled := fill layout .analytic epsilon formulas values none
    (∀ kind, formulas kind =
      ((own.reverse.find? fun one => one.1 = kind).map Prod.snd).or (registered kind)) ∧
    (∀ i, (layout.boundAt i).columns ≠ [] →
      match (formulas (layout.boundAt i).kind).bind fun formula =>
        formula values (layout.boundAt i) with
      | some partials => ∀ j, filled.matrix.entry i j = partials.total (layout.slotAt j)
      | none =>
        filled.matrix.get i = (fill layout .forward epsilon formulas values none).matrix.get i) ∧
    filled.fallbackRows = {i | FallsBack formulas values (layout.boundAt i)}.ncard ∧
    ∀ mode, fill layout mode epsilon formulas values (some (layout.residuals values)) =
      fill layout mode epsilon formulas values none := by
  have distinct : Function.Injective layout.slotAt := by
    obtain ⟨blocks, freeSlots, _⟩ := Layout.ofStore_inv flat
    refine Layout.slotAt_injective ?_
    rw [freeSlots, blocks]
    exact Layout.nodup_freeSlotsOf 0 store.entities
  simp only [fill_eq]
  refine ⟨registered.updated_eq own, ?_, fallbackRows_build .., fun mode => ?_⟩
  · intro i dependent
    generalize registered.updated own = formulas
    have nonempty : (layout.boundAt i).columns.isEmpty = false :=
      List.isEmpty_eq_false_iff.mpr dependent
    have forward : source .forward formulas values (layout.boundAt i) = .differences false := by
      simp [source, nonempty]
    cases known : formulas (layout.boundAt i).kind with
    | none =>
        have unlisted :
            source .analytic formulas values (layout.boundAt i) = .differences false := by
          simp [source, nonempty, known]
        exact (get_build unlisted).trans (get_build forward).symm
    | some formula =>
        rw [Option.bind_some]
        cases answer : formula values (layout.boundAt i) with
        | none =>
            have undefined :
                source .analytic formulas values (layout.boundAt i) = .differences true := by
              simp [source, nonempty, known, answer]
            exact (get_build undefined).trans (get_build forward).symm
        | some partials =>
            have listed :
                source .analytic formulas values (layout.boundAt i) = .formula partials := by
              simp [source, nonempty, known, answer]
            intro j
            rw [Dense.entry, get_build listed]
            exact Layout.get_partialsRow_total distinct partials j
  · rw [build_handed]

/-- A fixed point and a loose one in the same place, wanted at a distance of `2`. -/
def coinciding : Store Float where
  entities := [
    { name := .ofString "A", shape := .point 0 0, fixed := true },
    { name := .ofString "P", shape := .point 0 0, fixed := false }]
  constraints := [
    { name := .ofString "D", relation := .distance (.ofString "A") (.ofString "P"), value := some 2
      tolerance := 0.001, priority := .int 1, satisfied := .bool false }]

/-- The distance of points in one place has no derivative: the one row is counted, and it is that of
difference quotients. -/
theorem fill_analytic_coinciding :
    ∃ layout, Layout.ofStore coinciding = .ok layout ∧
      let filled := fill layout .analytic 1e-8 .standard coinciding.parameters.toArray none
      filled.fallbackRows = 1 ∧
        filled.matrix = (fill layout .forward 1e-8 .standard coinciding.parameters.toArray
          none).matrix := by
  have flat : Layout.ofStore coinciding = .ok (Layout.laid coinciding) := rfl
  obtain ⟨-, rows, counted, -⟩ :=
    fill_analytic flat 1e-8 .standard [] coinciding.parameters.toArray
  have falls (i : Fin 1) :
      FallsBack .standard coinciding.parameters.toArray ((Layout.laid coinciding).boundAt i) := by
    obtain rfl : i = 0 := Subsingleton.elim i 0
    exact ⟨by decide +kernel, _, rfl, by decide +kernel⟩
  refine ⟨_, flat, ?_, ?_⟩
  · refine counted.trans ?_
    have all :
        {i | FallsBack .standard coinciding.parameters.toArray
          ((Layout.laid coinciding).boundAt i)} =
        Set.univ := Set.eq_univ_of_forall falls
    refine (congrArg Set.ncard all).trans ?_
    rw [Set.ncard_univ, Nat.card_eq_fintype_card, Fintype.card_fin]
    rfl
  · refine Vector.ext fun k small => ?_
    obtain ⟨dependent, formula, known, undefined⟩ := falls ⟨k, small⟩
    have unlisted := (congrArg (fun known => known.bind fun formula =>
      formula coinciding.parameters.toArray ((Layout.laid coinciding).boundAt ⟨k, small⟩))
        known).trans undefined
    have row := rows ⟨k, small⟩ dependent
    split at row
    case h_1 partials listed => cases unlisted.symm.trans listed
    case h_2 _ => exact row

end Jacobian

end PlanarSketch
