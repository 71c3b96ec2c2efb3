import Mathlib
import PlanarSketch.Partials
import PlanarSketch.Proofs.Exact.Real
import PlanarSketch.Proofs.Store.Rearranged

/-!
# Relations read the other way round

A relation between two shapes says the same with the two exchanged (`Relation.swap`). Read exactly,
its residual is the same number (`Relation.residual_swap`), and so are its partial derivatives: the
formulas answer the same slots with the same derivatives, only listed in another order
(`Formulas.partials_swap`).
-/

set_option autoImplicit false

namespace PlanarSketch

namespace Relation

variable {ρ σ : Type}

theorem map_congr {f g : ρ → σ} {relation : Relation ρ} (same : ∀ a ∈ relation.refs, f a = g a) :
    relation.map f = relation.map g := by
  cases relation <;> simp only [refs, List.forall_mem_cons] at same <;> simp [map, same]

/-! ## Residuals -/

theorem cross_swap (a b : ℝ × ℝ) : cross b a = -cross a b := by
  rw [cross, cross]
  ring

theorem dot_swap (a b : ℝ × ℝ) : dot b a = dot a b := by
  rw [dot, dot]
  ring

theorem separation_swap (a b : ℝ × ℝ) : separation b a = separation a b := by
  rw [separation, separation, Scalar.hypot_eq, Scalar.hypot_eq]
  ring_nf

theorem angleBetween_swap (a b : ℝ × ℝ) : angleBetween b a = angleBetween a b := by
  rw [angleBetween, angleBetween, dot_swap, mul_comm (Scalar.hypot b.1 b.2)]

/-- **The residual of a relation does not depend on the order of its references.** -/
theorem residual_swap (target : ℝ) (relation : Relation (Shape ℝ)) :
    relation.swap.residual target = relation.residual target := by
  cases relation with
  | distance a b => rw [swap, residual, residual, separation_swap]
  | angle a b => rw [swap, residual, residual, angleBetween_swap]
  | parallel a b => rw [swap, residual, residual, cross_swap, Scalar.abs_eq, Scalar.abs_eq, abs_neg]
  | perpendicular a b => rw [swap, residual, residual, dot_swap]
  | coincident a b => rw [swap, residual, residual, separation_swap]
  | horizontal a => rfl
  | vertical a => rfl

end Relation

/-! ## Partial derivatives -/

namespace Operand

variable (values : Array ℝ) (a b : Operand)

theorem separationPartials_swap :
    Option.Rel List.Perm (separationPartials values a b) (separationPartials values b a) := by
  have length (x y u v : ℝ) : Scalar.hypot (u - x) (v - y) = Scalar.hypot (x - u) (y - v) :=
    Relation.separation_swap (x, y) (u, v)
  rw [separationPartials, separationPartials]
  dsimp only
  rw [length]
  split
  case isTrue _ => exact .none
  case isFalse _ =>
    refine .some ?_
    have opposite (x y d : ℝ) : (y - x) / d = -((x - y) / d) := by ring
    rw [opposite (a.shape values).anchor.1, opposite (a.shape values).anchor.2, neg_neg, neg_neg]
    exact @List.perm_append_comm _ [_, _] [_, _]

theorem dotPartials_swap :
    Option.Rel List.Perm (dotPartials values a b) (dotPartials values b a) := by
  rw [dotPartials, dotPartials]
  cases a.directionJet values with
  | none => cases b.directionJet values <;> exact .none
  | some u =>
      cases b.directionJet values with
      | none => exact .none
      | some v =>
          refine .some ?_
          simp only [mul_comm (DirectionPartial.dx _), mul_comm (DirectionPartial.dy _)]
          exact List.perm_append_comm

/-- The sign of the opposite of a number that is not zero. -/
theorem sign_neg {x : ℝ} (nonzero : x ≠ 0) :
    (if Scalar.lt Scalar.zero (-x) then Scalar.one else -Scalar.one : ℝ) =
      -(if Scalar.lt Scalar.zero x then Scalar.one else -Scalar.one) := by
  rcases nonzero.lt_or_gt with negative | positive
  · simp [negative, not_lt_of_gt negative]
  · simp [positive, not_lt_of_gt positive]

theorem crossPartials_swap :
    Option.Rel List.Perm (crossPartials values a b) (crossPartials values b a) := by
  rw [crossPartials, crossPartials]
  cases a.directionJet values with
  | none => cases b.directionJet values <;> exact .none
  | some u =>
      cases b.directionJet values with
      | none => exact .none
      | some v =>
          simp only [Option.bind_eq_bind, Option.bind_some, Relation.cross_swap u.direction]
          generalize Relation.cross u.direction v.direction = cross
          by_cases parallel : cross = 0
          · rw [if_pos ((Scalar.isZero_iff _).mpr parallel), parallel, neg_zero,
              if_pos ((Scalar.isZero_iff _).mpr rfl)]
            exact .none
          · have slanted : ¬ Scalar.isZero cross = true := mt (Scalar.isZero_iff _).mp parallel
            have slanted' : ¬ Scalar.isZero (-cross) = true := by simpa using parallel
            rw [if_neg slanted, if_neg slanted', sign_neg parallel]
            generalize (if Scalar.lt Scalar.zero cross then Scalar.one else -Scalar.one : ℝ) = sign
            refine .some ?_
            have first (p : DirectionPartial ℝ) :
                -sign * (v.direction.1 * p.dy - v.direction.2 * p.dx) =
                  sign * (p.dx * v.direction.2 - p.dy * v.direction.1) := by ring
            have second (p : DirectionPartial ℝ) :
                -sign * (p.dx * u.direction.2 - p.dy * u.direction.1) =
                  sign * (u.direction.1 * p.dy - u.direction.2 * p.dx) := by ring
            simp only [first, second]
            exact List.perm_append_comm

end Operand

/-- **The formulas give the same partial derivatives whichever way a relation is read.** -/
theorem Formulas.partials_swap (values : Array ℝ) (relation : Relation Operand) :
    Option.Rel List.Perm (partials values relation) (partials values relation.swap) := by
  cases relation with
  | distance a b | coincident a b => exact Operand.separationPartials_swap values a b
  | angle a b => exact .none
  | parallel a b => exact Operand.crossPartials_swap values a b
  | perpendicular a b => exact Operand.dotPartials_swap values a b
  | horizontal a | vertical a =>
      rw [Relation.swap]
      cases partials values _ with
      | none => exact .none
      | some known => exact .some (List.Perm.refl known)

end PlanarSketch
