import Mathlib.Data.List.FinRange

/-!
# Going through indices

Rows and columns are treated one after the other. What holds before the first step and is kept by
each holds after the last, for a property that may speak of how far the walk has come: upwards
(`foldl_finRange_induction`) and downwards (`foldl_reverse_finRange_induction`).
-/

set_option autoImplicit false

namespace PlanarSketch

/-- Going through all indices upwards, with a property of how far the walk has come. -/
theorem foldl_finRange_induction {β : Type} {n : Nat} {step : β → Fin n → β}
    (holds : Nat → β → Prop) {start : β} (first : holds 0 start)
    (next : ∀ (i : Fin n) (state : β), holds i.val state → holds (i.val + 1) (step state i)) :
    holds n ((List.finRange n).foldl step start) := by
  suffices upTo : ∀ k ≤ n, holds k (((List.finRange n).take k).foldl step start) by
    have whole := upTo n le_rfl
    rwa [List.take_of_length_le (List.length_finRange).le] at whole
  intro k
  induction k with
  | zero => exact fun _ => first
  | succ k ih =>
      intro within
      have here : k < (List.finRange n).length := by rw [List.length_finRange]; exact within
      rw [List.take_succ_eq_append_getElem here, List.foldl_append, List.getElem_finRange]
      exact next ⟨k, within⟩ _ (ih (by omega))

/-- Going through all indices downwards. -/
theorem foldl_reverse_finRange_induction {β : Type} {n : Nat} {step : β → Fin n → β}
    (holds : Nat → β → Prop) {start : β} (first : holds n start)
    (next : ∀ (i : Fin n) (state : β), holds (i.val + 1) state → holds i.val (step state i)) :
    holds 0 ((List.finRange n).reverse.foldl step start) := by
  suffices downTo : ∀ k ≤ n, holds (n - k) (((List.finRange n).reverse.take k).foldl step start) by
    have whole := downTo n le_rfl
    rwa [List.take_of_length_le (by simp), Nat.sub_self] at whole
  intro k
  induction k with
  | zero => exact fun _ => first
  | succ k ih =>
      intro within
      have here : k < (List.finRange n).reverse.length := by
        rw [List.length_reverse, List.length_finRange]; exact within
      have index : (List.finRange n).reverse[k] = ⟨n - (k + 1), by omega⟩ := by
        simp only [List.getElem_reverse, List.getElem_finRange, List.length_finRange, Fin.ext_iff,
          Fin.val_cast]
        omega
      rw [List.take_succ_eq_append_getElem here, List.foldl_append, index]
      have before := ih (by omega)
      rw [show n - k = n - (k + 1) + 1 by omega] at before
      exact next ⟨n - (k + 1), by omega⟩ _ before

end PlanarSketch
