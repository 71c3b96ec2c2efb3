import PlanarSketch.Jacobian
import PlanarSketch.Proofs.Indices

/-!
# Filling a matrix in place

Difference quotients are taken in one array of values, which is overwritten and restored slot by
slot. What comes of it is the matrix that is described row by row from the values at the start, and
the array is left as it was (`Jacobian.fill_eq`). This holds for all number types, settings and
formulas.

The argument goes from the inside out. A slot that is overwritten, once or twice, and gets back what
it held is as before; so a column takes its difference quotient and leaves the values
(`Jacobian.Sweep.forward_eq`, `Jacobian.Sweep.central_eq`). Then so does a row
(`Jacobian.sweep_eq`), and no row sees another.
-/

set_option autoImplicit false

namespace PlanarSketch

namespace Jacobian

variable {α : Type} [Scalar α]

/-! ## One slot -/

/-- Moving a slot is overwriting it with what it is moved to. -/
theorem shift_eq (values : Array α) (slot : Nat) (change : α → α) :
    shift values slot change = values.setIfInBounds slot
      (change (values.getD slot Scalar.zero)) := by
  refine Array.ext_getElem? fun k => ?_
  rw [shift, Array.getElem?_modify, Array.getElem?_setIfInBounds, Array.getD_eq_getD_getElem?]
  by_cases here : slot = k
  · subst here
    rw [if_pos rfl, if_pos rfl]
    by_cases within : slot < values.size <;> simp [within]
  · rw [if_neg here, if_neg here]

/-- A slot that was overwritten gets back what it held. -/
theorem restore_eq (values : Array α) (slot : Nat) (other : α) :
    (values.setIfInBounds slot other).setIfInBounds slot
      (values.getD slot Scalar.zero) = values := by
  refine Array.ext_getElem? fun k => ?_
  rw [Array.setIfInBounds_setIfInBounds, Array.getElem?_setIfInBounds, Array.getD_eq_getD_getElem?]
  by_cases here : slot = k
  · subst here
    rw [if_pos rfl]
    by_cases within : slot < values.size <;> simp [within]
  · rw [if_neg here]

/-! ## One column -/

namespace Sweep

variable (layout : Layout α) (epsilon here : α) (bound : Bound α) (row : Vector α layout.unknowns)
  (values : Array α) (column : Nat)

theorem forward_eq :
    forward layout epsilon bound here ⟨row, values⟩ column =
      ⟨row.setIfInBounds column
        (forwardQuotient epsilon values bound here (layout.freeSlots.getD column 0)), values⟩ := by
  rw [forward, forwardQuotient, shift_eq]
  dsimp only
  rw [restore_eq]

/-- The second step overwrites the first, so the slot gets back what it held before both. -/
theorem central_eq :
    central layout epsilon bound ⟨row, values⟩ column =
      ⟨row.setIfInBounds column
        (centralQuotient epsilon values bound (layout.freeSlots.getD column 0)), values⟩ := by
  rw [central, centralQuotient, shift_eq, shift_eq]
  dsimp only
  rw [Array.setIfInBounds_setIfInBounds, restore_eq]

end Sweep

/-! ## One row -/

omit [Scalar α] in
/-- Columns that leave the values write the row one after the other. -/
theorem foldl_sweep {n : Nat} {step : Sweep n α → Nat → Sweep n α} {entry : Nat → α}
    {values : Array α}
    (each : ∀ row column, step ⟨row, values⟩ column =
      ⟨row.setIfInBounds column (entry column), values⟩) (columns : List Nat) (row : Vector α n) :
    columns.foldl step ⟨row, values⟩ =
      ⟨columns.foldl (fun row column => row.setIfInBounds column (entry column)) row, values⟩ := by
  induction columns generalizing row with
  | nil => rfl
  | cons column rest ih => rw [List.foldl_cons, each, ih, List.foldl_cons]

omit [Scalar α] in
/-- A row written in some columns, each with an entry of its own, has these entries there. -/
theorem get_written {n : Nat} (entry : Nat → α) (columns : List Nat) (row : Vector α n)
    (j : Fin n) :
    (columns.foldl (fun row column => row.setIfInBounds column (entry column)) row).get j =
      if j.val ∈ columns then entry j.val else row.get j := by
  induction columns generalizing row with
  | nil => rfl
  | cons column rest ih =>
      rw [List.foldl_cons, ih]
      have written : (row.setIfInBounds column (entry column)).get j =
          if column = j.val then entry j.val else row.get j := by
        show (row.setIfInBounds column (entry column))[j.val] = _
        rw [Vector.getElem_setIfInBounds]
        split
        case isTrue same => rw [same]
        case isFalse _ => rfl
      rw [written]
      by_cases later : j.val ∈ rest
      · rw [if_pos later, if_pos (List.mem_cons_of_mem _ later)]
      · rw [if_neg later]
        simp only [List.mem_cons, later, or_false, eq_comm]

/-- **A row of difference quotients is taken in place.** -/
theorem sweep_eq (layout : Layout α) (mode : DerivativeMode) (epsilon : α) (values : Array α)
    (bound : Bound α) (here : α) :
    sweep layout mode epsilon values bound here =
      ⟨differenceRow layout mode epsilon values bound here, values⟩ := by
  have blank (j : Fin layout.unknowns) :
      (Vector.replicate layout.unknowns (Scalar.zero : α)).get j = Scalar.zero :=
    Vector.getElem_replicate j.isLt
  have described (entry : Nat → α) (row : Vector α layout.unknowns)
      (same : ∀ j, row.get j = if j.val ∈ bound.columns then entry j.val else Scalar.zero) :
      bound.columns.foldl (fun row column => row.setIfInBounds column (entry column))
        (Vector.replicate layout.unknowns Scalar.zero) = row := by
    refine Vector.ext fun k small => ?_
    have at_k :=
      get_written entry bound.columns (Vector.replicate layout.unknowns Scalar.zero) ⟨k, small⟩
    rw [blank, ← same ⟨k, small⟩] at at_k
    exact at_k
  cases mode with
  | central =>
      refine (foldl_sweep
        (fun row column => Sweep.central_eq layout epsilon bound row values column)
        bound.columns _).trans ?_
      rw [described _ (differenceRow layout .central epsilon values bound here)]
      intro j
      exact Vector.getElem_ofFn j.isLt
  | forward | analytic =>
      refine (foldl_sweep
        (fun row column => Sweep.forward_eq layout epsilon here bound row values column)
        bound.columns _).trans ?_
      rw [described _ (differenceRow layout _ epsilon values bound here)]
      intro j
      exact Vector.getElem_ofFn j.isLt

/-! ## All rows -/

/-- How the rows are filled at given values, in order. -/
def sources (layout : Layout α) (mode : DerivativeMode) (formulas : Formulas α) (values : Array α) :
    List (Source α) :=
  layout.bound.toList.map (source mode formulas values)

section Rows

variable (layout : Layout α) (mode : DerivativeMode) (epsilon : α) (formulas : Formulas α)
  (values : Array α) (residuals : Option (Vector α layout.equations))

/-- The first `k` rows are filled as they are described, the others are blank, and the values are
those that the filling started with. -/
structure FilledTo (k : Nat) (filling : Filling layout.equations layout.unknowns α) : Prop where
  values_eq : filling.values = values
  get_matrix (i : Fin layout.equations) : filling.matrix.get i =
    if i.val < k then (build layout mode epsilon formulas values residuals).matrix.get i
    else Vector.replicate layout.unknowns Scalar.zero
  fallbackRows_eq : filling.fallbackRows =
    (((sources layout mode formulas values).take k).filter Source.isFallback).length
  firstDifference_eq : filling.firstDifference =
    ((sources layout mode formulas values).take k).findIdx? Source.isDifferences

variable {layout mode epsilon formulas values residuals}

/-- A row of the description, when it is known how it is filled. -/
theorem get_build {i : Fin layout.equations} {filled : Source α}
    (known : source mode formulas values layout.bound[i] = filled) :
    (build layout mode epsilon formulas values residuals).matrix.get i =
      row layout mode epsilon values layout.bound[i]
        (residualAt layout values residuals i) filled := by
  rw [← known]
  exact Vector.getElem_ofFn i.isLt

omit [Scalar α] in
/-- How one more row is filled. -/
theorem take_sources {i : Fin layout.equations} {filled : Source α}
    (known : source mode formulas values layout.bound[i] = filled) :
    (sources layout mode formulas values).take (i.val + 1) =
      (sources layout mode formulas values).take i.val ++ [filled] := by
  have within : i.val < (sources layout mode formulas values).length := by
    rw [sources, List.length_map, Array.length_toList]
    exact i.isLt
  rw [List.take_succ_eq_append_getElem within, ← known]
  simp [sources]

omit [Scalar α] in
/-- Writing one more row as it is described. -/
theorem get_next {m n : Nat} {matrix built : Dense m n α} {blank : Vector α n} {here : Fin m}
    (before : ∀ i, matrix.get i = if i.val < here.val then built.get i else blank)
    {row : Vector α n} (described : built.get here = row) (i : Fin m) :
    (matrix.set here.val row here.isLt).get i = if i.val < here.val + 1 then built.get i
      else blank := by
  show (matrix.set here.val row here.isLt)[i.val] = _
  rw [Vector.getElem_set]
  by_cases same : here.val = i.val
  · rw [if_pos same, if_pos (by omega), ← described, Fin.ext same]
  · rw [if_neg same]
    refine (before i).trans ?_
    by_cases less : i.val < here.val
    · rw [if_pos less, if_pos (by omega)]
    · rw [if_neg less, if_neg (by omega)]

/-- One more row is filled as it is described. -/
theorem FilledTo.next {filling : Filling layout.equations layout.unknowns α}
    (i : Fin layout.bound.size)
    (before : FilledTo layout mode epsilon formulas values residuals i.val filling) :
    FilledTo layout mode epsilon formulas values residuals (i.val + 1)
      (fillRow layout mode epsilon formulas residuals filling i) := by
  obtain ⟨⟨matrix, fallbackRows, firstDifference⟩, start⟩ := filling
  obtain ⟨same, rows, counted, first⟩ := before
  dsimp only at same rows counted first
  subst same
  unfold fillRow
  dsimp only
  cases known : source mode formulas start layout.bound[i] with
  | blank =>
      have described : (build layout mode epsilon formulas start residuals).matrix.get i =
          Vector.replicate layout.unknowns Scalar.zero := get_build known
      refine ⟨rfl, fun k => ?_, ?_, ?_⟩
      · refine (rows k).trans ?_
        by_cases same : k = i
        · rw [same, if_neg (lt_irrefl _), if_pos (Nat.lt_succ_self _), described]
        · have : k.val ≠ i.val := fun equal => same (Fin.ext equal)
          exact if_congr (by omega) rfl rfl
      · rw [take_sources known]
        simpa [Source.isFallback] using counted
      · rw [take_sources known]
        simpa [Source.isDifferences] using first
  | formula partials =>
      have described : (build layout mode epsilon formulas start residuals).matrix.get i =
          partialsRow layout partials := get_build known
      refine ⟨rfl, get_next rows described, ?_, ?_⟩
      · rw [take_sources known]
        simpa [Source.isFallback] using counted
      · rw [take_sources known]
        simpa [Source.isDifferences] using first
  | differences fallback =>
      have described : (build layout mode epsilon formulas start residuals).matrix.get i =
          differenceRow layout mode epsilon start layout.bound[i]
            (residualAt layout start residuals i) :=
        get_build known
      have length : ((sources layout mode formulas start).take i.val).length = i.val := by
        simp [sources, i.isLt.le]
      rw [sweep_eq]
      refine ⟨rfl, get_next rows described, ?_, ?_⟩
      · rw [take_sources known, List.filter_append, List.length_append, ← counted]
        cases fallback <;> rfl
      · rw [take_sources known, List.findIdx?_append, ← first, length]
        simp [Source.isDifferences]

variable (layout mode epsilon formulas values residuals)

/-- **Filling in place is filling row by row.** The matrix is the one that is described row by row,
and the values are left as they were. -/
theorem fill_eq :
    fill layout mode epsilon formulas values residuals =
      ⟨build layout mode epsilon formulas values residuals, values⟩ := by
  have whole : FilledTo layout mode epsilon formulas values residuals layout.equations
      (fill layout mode epsilon formulas values residuals) :=
    foldl_finRange_induction (FilledTo layout mode epsilon formulas values residuals)
      ⟨rfl, fun i => Vector.getElem_replicate i.isLt, rfl, rfl⟩ fun i _ before => before.next i
  obtain ⟨same, rows, counted, first⟩ := whole
  have all : (sources layout mode formulas values).take layout.equations =
      sources layout mode formulas values :=
    List.take_of_length_le (by simp [sources, Layout.equations])
  rw [all] at counted first
  have matrix : (fill layout mode epsilon formulas values residuals).matrix =
      (build layout mode epsilon formulas values residuals).matrix :=
    Vector.ext fun k small => (rows ⟨k, small⟩).trans (if_pos small)
  generalize fill layout mode epsilon formulas values residuals =
    filling at same counted first matrix
  obtain ⟨⟨_, _, _⟩, _⟩ := filling
  dsimp only at same counted first matrix
  rw [same, counted, first, matrix]
  rfl

end Rows

end Jacobian

end PlanarSketch
