import Mathlib.Data.Prod.Lex
import Mathlib.Order.Compare
import PlanarSketch.Binary64

/-!
# Comparing numbers

Keeping the best of several numbers needs little of a comparison: nothing is less than itself, and
being less is transitive (`Scalar.StrictOrder`). That the best is below all others takes a little
more: what is less than a number is less than every finite number that is not less than it
(`Scalar.WeakOrder`).

Double-precision numbers compare this way, the undefined number included, which is less than nothing
and has nothing below it. A double that is defined has a *rank*: its sign, then its exponent, then
its mantissa, where the last two count downwards below zero. Comparing two doubles is comparing
their ranks (`UnpackedFloat.lt_iff_rank_lt`), so the facts about `Float` are those of a linear
order.
-/

set_option autoImplicit false

namespace PlanarSketch

/-- A number type whose comparison is irreflexive and transitive. -/
class Scalar.StrictOrder (α : Type) [Scalar α] : Prop where
  lt_self (x : α) : Scalar.lt x x = false
  lt_trans {x y z : α} : Scalar.lt x y = true → Scalar.lt y z = true → Scalar.lt x z = true

/-- A number type in which less than a number is less than all finite numbers that are not less than
it. -/
class Scalar.WeakOrder (α : Type) [Scalar α] : Prop extends Scalar.StrictOrder α where
  lt_of_lt_of_not_lt {x y z : α} : Scalar.isFinite z = true → Scalar.lt x y = true →
    Scalar.lt z y = false → Scalar.lt x z = true

namespace Scalar

variable {α : Type} [Scalar α] [StrictOrder α]

/-- What is not less than a number is not less than a smaller one. -/
theorem not_lt_of_not_lt_of_lt {x y z : α} (notLess : lt x y = false) (less : lt z y = true) :
    lt x z = false := by
  by_contra other
  rw [StrictOrder.lt_trans (Bool.of_not_eq_false other) less] at notLess
  cases notLess

end Scalar

/-! ## The rank of a double -/

open Float.Model

/-- The place of a number among the others: sign, exponent, mantissa. The undefined number has none;
zero stands in for it. -/
def UnpackedFloat.rank : UnpackedFloat → ℤ ×ₗ ℤ ×ₗ ℤ
  | .infinity .positive => toLex (2, toLex (0, 0))
  | .infinity .negative => toLex (-2, toLex (0, 0))
  | .zero _ | .notANumber => toLex (0, toLex (0, 0))
  | .finite .positive mantissa exponent _ => toLex (1, toLex (exponent, (mantissa : ℤ)))
  | .finite .negative mantissa exponent _ => toLex (-1, toLex (-exponent, -(mantissa : ℤ)))

/-- One number is less than another exactly when both are defined and its rank is smaller. -/
theorem UnpackedFloat.lt_iff_rank_lt (a b : UnpackedFloat) :
    a.lt b = true ↔ a.isNaN = false ∧ b.isNaN = false ∧ rank a < rank b := by
  have opposite : compare UnpackedFloat.Sign.negative UnpackedFloat.Sign.positive = .lt := rfl
  rcases a with (_ | _) | _ | _ | ⟨(_ | _), _, _, _⟩ <;>
    rcases b with (_ | _) | _ | _ | ⟨(_ | _), _, _, _⟩ <;>
    dsimp only [UnpackedFloat.lt, UnpackedFloat.compare, UnpackedFloat.isNaN, rank] <;>
    simp [Prod.Lex.toLex_lt_toLex, opposite, Ordering.then_eq_lt, Ordering.then_eq_gt,
      compare_lt_iff_lt, compare_gt_iff_gt]

theorem lt_iff_unpack_lt (x y : Float) :
    Scalar.lt x y = true ↔ x.toModel.unpack.lt y.toModel.unpack = true := by
  show decide (x < y) = true ↔ _
  rw [decide_eq_true_iff]
  show decide (x.toModel.unpack.lt y.toModel.unpack = true) = true ↔ _
  rw [decide_eq_true_iff]

/-- Doubles are compared irreflexively and transitively. -/
instance : Scalar.StrictOrder Float where
  lt_self x := by
    by_contra other
    have less := (lt_iff_unpack_lt x x).mp (Bool.of_not_eq_false other)
    exact lt_irrefl _ ((UnpackedFloat.lt_iff_rank_lt _ _).mp less).2.2
  lt_trans {x y z} first second := by
    rw [lt_iff_unpack_lt, UnpackedFloat.lt_iff_rank_lt] at *
    exact ⟨first.1, second.2.1, first.2.2.trans second.2.2⟩

theorem UnpackedFloat.isNaN_of_isFinite {a : UnpackedFloat} (finite : a.isFinite = true) :
    a.isNaN = false := by
  cases a <;> first | rfl | cases finite

instance : Scalar.WeakOrder Float where
  lt_of_lt_of_not_lt {x y z} finite less notLess := by
    have defined : z.toModel.unpack.isNaN = false := UnpackedFloat.isNaN_of_isFinite finite
    rw [Bool.eq_false_iff, Ne, lt_iff_unpack_lt, UnpackedFloat.lt_iff_rank_lt] at notLess
    rw [lt_iff_unpack_lt, UnpackedFloat.lt_iff_rank_lt] at less ⊢
    have above := not_lt.mp fun below => notLess ⟨defined, less.2.1, below⟩
    exact ⟨less.1, defined, less.2.2.trans_le above⟩

end PlanarSketch
