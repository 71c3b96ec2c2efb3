import Mathlib.Data.EReal.Basic
import Mathlib.Tactic
import PlanarSketch.Json.Number
import PlanarSketch.Proofs.Number.Order

/-!
# What numbers are worth

A number as given is worth a real number or an infinite one, unless it is undefined
(`Number.value`). Numbers of different forms are compared as what they are worth (`Number.lt_iff`),
so the tests of settings mean what they say.
-/

set_option autoImplicit false

namespace PlanarSketch

theorem UnpackedFloat.isInf_of_isFinite {a : Float.Model.UnpackedFloat}
    (finite : a.isFinite = true) :
    a.isInf = false := by
  cases a <;> first | rfl | cases finite

namespace Number

/-- What an exact value is worth, as a real number or an infinite one. -/
noncomputable def Exact.value : Exact → Option EReal
  | .finite mantissa exponent => some ((mantissa * (2 : ℕ) ^ exponent : ℝ) : EReal)
  | .infinite negative => some (if negative then ⊥ else ⊤)
  | .undefined => none

/-- What a number is worth. -/
noncomputable def value (number : Number) : Option EReal := number.exact.value

/-! ## Comparing -/

/-- Whole multiples of powers of two are compared after they are brought to the lower power. -/
theorem scaled_lt_iff (m n e f : ℤ) :
    m * Int.pow 2 (e - min e f).toNat < n * Int.pow 2 (f - min e f).toNat ↔
      (m * 2 ^ e : ℝ) < n * 2 ^ f := by
  have scale (k : ℤ) (low : min e f ≤ k) :
      (2 : ℝ) ^ k = (Int.pow 2 (k - min e f).toNat : ℤ) * 2 ^ min e f := by
    have cast : ((Int.pow 2 (k - min e f).toNat : ℤ) : ℝ) = 2 ^ (k - min e f).toNat :=
      Int.cast_pow 2 _
    rw [cast, ← zpow_natCast, Int.toNat_of_nonneg (sub_nonneg.mpr low), ← zpow_add₀ two_ne_zero,
      sub_add_cancel]
  rw [scale e (min_le_left e f), scale f (min_le_right e f), ← mul_assoc, ← mul_assoc,
    mul_lt_mul_iff_left₀ (zpow_pos two_pos _)]
  norm_cast

theorem Exact.lt_iff {a b : Exact} :
    a.lt b = true ↔ ∃ x y, a.value = some x ∧ b.value = some y ∧ x < y := by
  cases a with
  | undefined => cases b <;> simp [Exact.lt, Exact.value]
  | infinite negative =>
      cases b with
      | undefined => cases negative <;> simp [Exact.lt, Exact.value]
      | infinite other => cases negative <;> cases other <;> simp [Exact.lt, Exact.value]
      | finite n f => cases negative <;> simp [Exact.lt, Exact.value, -EReal.coe_mul]
  | finite m e =>
      cases b with
      | undefined => simp [Exact.lt, Exact.value]
      | infinite other => cases other <;> simp [Exact.lt, Exact.value, -EReal.coe_mul]
      | finite n f =>
          simp only [Exact.lt, Exact.value]
          rw [decide_eq_true_iff, scaled_lt_iff]
          simp [-EReal.coe_mul]

/-- **Numbers are compared as what they are worth.** -/
theorem lt_iff {a b : Number} :
    lt a b = true ↔ ∃ x y, a.value = some x ∧ b.value = some y ∧ x < y :=
  Exact.lt_iff

theorem Exact.not_lt_iff {a b : Exact} {x y : EReal} (left : a.value = some x)
    (right : b.value = some y) :
    (!a.lt b) = true ↔ y ≤ x := by
  rw [Bool.not_eq_true', ← Bool.not_eq_true, lt_iff, left, right]
  simp

theorem value_zero : zero.value = some 0 := by
  simp [value, exact, Exact.value, zero]

theorem value_one : one.value = some 1 := by
  simp [value, exact, Exact.value, one]

/-! ## Tests -/

theorem isPositive_iff {number : Number} :
    number.isPositive = true ↔ ∃ x, number.value = some x ∧ 0 < x := by
  rw [isPositive, lt_iff, value_zero]
  simp

theorem isNonNegative_iff {number : Number} :
    number.isNonNegative = true ↔ ∃ x, number.value = some x ∧ 0 ≤ x := by
  rw [isNonNegative, value]
  cases number.exact with
  | undefined => simp [Exact.value]
  | finite | infinite => exact (Exact.not_lt_iff rfl value_zero).trans (by simp [Exact.value])

theorem isAtMostOne_iff {number : Number} :
    number.isAtMostOne = true ↔ ∃ x, number.value = some x ∧ x ≤ 1 := by
  rw [isAtMostOne, value]
  cases number.exact with
  | undefined => simp [Exact.value]
  | finite | infinite => exact (Exact.not_lt_iff value_one rfl).trans (by simp [Exact.value])

/-- A number with a finite nearest double is worth a real number. -/
theorem exists_real {number : Number} (finite : number.nearest.isFinite = true) :
    ∃ x : ℝ, number.value = some (x : EReal) := by
  cases number with
  | truth | whole => exact ⟨_, rfl⟩
  | double x =>
      have defined : x.isNaN = false := UnpackedFloat.isNaN_of_isFinite finite
      have bounded : x.isInf = false := UnpackedFloat.isInf_of_isFinite finite
      rw [value, exact, if_neg (Bool.eq_false_iff.mp defined),
        if_neg (Bool.eq_false_iff.mp bounded)]
      exact ⟨_, rfl⟩

end Number

end PlanarSketch
