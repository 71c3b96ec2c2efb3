import Mathlib
import PlanarSketch.Proofs.Number.Order
import PlanarSketch.Proofs.Number.Special

/-!
# Difference quotients that vanish

The difference quotient of a number that does not change is zero, for a positive step and for twice
one (`Scalar.Cancels`). Over doubles this takes a look at how numbers are rounded. A finite number
less itself is zero. Zero divided by a positive number is zero, the infinite one included, but
divided by zero it is undefined. So it matters that twice a positive double is not rounded to zero
(`Binary64.isPositive_twice`).

A product of two doubles is a mantissa with an exponent, which is shifted to the exponent it is
written with, rounded, and shifted once more, since rounding can carry. As long as its value is not
below the least positive double, a mantissa that is shifted stays positive, and it fits
(`Binary64.shifted`). What fits is still positive when it was written and is read back
(`Binary64.isPositive_pack`).
-/

set_option autoImplicit false

namespace PlanarSketch

/-- A number type in which a difference quotient of a finite number with itself is zero. -/
class Scalar.Cancels (α : Type) [Scalar α] : Prop where
  forward {r epsilon : α} : isFinite r = true → lt zero epsilon = true → (r - r) / epsilon = zero
  central {r epsilon : α} : isFinite r = true → lt zero epsilon = true →
  (r - r) / (two * epsilon) = zero

namespace Binary64

open Float.Model Float.Model.UnpackedFloat

/-! ## Zero over a positive number -/

/-- Positive, finite or not. -/
def IsPositive : UnpackedFloat → Prop
  | .infinity .positive => True
  | .finite .positive _ _ _ => True
  | _ => False

theorem unpack_zero : (Scalar.zero : Float).toModel.unpack = .zero .positive := by
  have bits : (Scalar.zero : Float).toModel.toBits = 0 := by decide +kernel
  rw [Float.Model.unpack, bits]
  rfl

theorem unpack_two :
    (Scalar.two : Float).toModel.unpack = .finite .positive (2 ^ 52) (-51) (by decide) := by
  have bits : (Scalar.two : Float).toModel.toBits = 0x4000000000000000 := by decide +kernel
  rw [Float.Model.unpack, bits]
  rfl

/-- What is written for zero is zero. -/
theorem ofModel_pack_zero : Float.ofModel (Float.Model.pack (.zero .positive)) = Scalar.zero :=
  eq_of_toBits (by decide +kernel)

theorem isPositive_of_lt {x : Float} (positive : Scalar.lt Scalar.zero x = true) :
    IsPositive x.toModel.unpack := by
  rw [lt_iff_unpack_lt, unpack_zero] at positive
  generalize x.toModel.unpack = read at positive ⊢
  rcases read with (_ | _) | _ | (_ | _) | ⟨(_ | _), _, _, _⟩
  case infinity.positive | finite.positive => trivial
  all_goals cases positive

/-- A finite number less itself is zero. -/
theorem sub_self {x : Float} (finite : x.isFinite = true) : x - x = Scalar.zero := by
  rw [← ofModel_pack_zero]
  change x.toModel.unpack.isFinite = true at finite
  show Float.ofModel (Float.Model.pack
    (UnpackedFloat.sub .binary64 x.toModel.unpack x.toModel.unpack)) = _
  congr 2
  cases read : x.toModel.unpack with
  | notANumber | infinity sign =>
      rw [read] at finite
      cases finite
  | zero sign => cases sign <;> rfl
  | finite sign mantissa exponent positive =>
      simp only [UnpackedFloat.sub, Int.sub_self, UnpackedFloat.normalize]
      rfl

/-- Zero over a positive number is zero. -/
theorem zero_div {x : Float} (positive : IsPositive x.toModel.unpack) :
    Scalar.zero / x = Scalar.zero := by
  rw [← ofModel_pack_zero]
  show Float.ofModel (Float.Model.pack
    (UnpackedFloat.div .binary64 (Scalar.zero : Float).toModel.unpack x.toModel.unpack)) = _
  congr 2
  rw [unpack_zero]
  generalize x.toModel.unpack = read at positive ⊢
  rcases read with (_ | _) | _ | (_ | _) | ⟨(_ | _), _, _, _⟩
  case infinity.positive | finite.positive => rfl
  all_goals cases positive

/-! ## Rounding -/

theorem mantissa_shiftRight (extended : ExtendedMantissa) (count : Nat) :
    (extended >>> count).mantissa = extended.mantissa / 2 ^ count := by
  induction count with
  | zero => exact (Nat.div_one _).symm
  | succ count ih =>
      show (extended >>> count).mantissa / 2 = _
      rw [ih, Nat.div_div_eq_div_mul, Nat.pow_succ]

theorem mantissa_ofMantissaAndAccuracy (mantissa : Nat) (accuracy : Accuracy) :
    (ExtendedMantissa.ofMantissaAndAccuracy mantissa accuracy).mantissa = mantissa := by
  rcases accuracy with _ | (_ | _ | _) <;> rfl

/-- Rounding never goes below the mantissa. -/
theorem le_roundedMantissa (extended : ExtendedMantissa) :
    extended.mantissa ≤ extended.roundedMantissa := by
  obtain ⟨mantissa, _ | _, _ | _⟩ := extended
  · exact le_rfl
  · exact le_rfl
  · exact Nat.le_add_right _ _
  · exact Nat.le_succ _

/-- A positive mantissa shifted to the exponent it is written with, when its value is not below the
least positive double: it stays positive, it fits, and its exponent is one that can be written. -/
theorem shifted {mantissa : Nat} {exponent : Int} (positive : 0 < mantissa)
    (large : -1074 ≤ mantissa.log2 + exponent) (accuracy : Accuracy) :
    let shifted := shiftToTargetExponent .binary64 mantissa exponent accuracy
    0 < shifted.1.mantissa ∧ shifted.1.mantissa < 2 ^ 53 ∧ -1074 ≤ shifted.2 := by
  have target : Format.binary64.targetExponent (totalExponent mantissa exponent) =
      max (mantissa.log2 + 1 + exponent - 53) (-1074) := rfl
  simp only [shiftToTargetExponent, shiftToExponent, mantissa_shiftRight,
    mantissa_ofMantissaAndAccuracy, target]
  have least := Nat.log2_self_le positive.ne'
  have above : mantissa < 2 ^ (mantissa.log2 + 1) := Nat.lt_log2_self
  generalize mantissa.log2 = top at least above large ⊢
  generalize amount : (max ((top : Int) + 1 + exponent - 53) (-1074) - exponent).toNat = count
  refine ⟨?_, ?_, by omega⟩
  · have within : 2 ^ count ≤ 2 ^ top := Nat.pow_le_pow_right (by decide) (by omega)
    exact Nat.div_pos (within.trans least) (Nat.two_pow_pos _)
  · rw [Nat.div_lt_iff_lt_mul (Nat.two_pow_pos _), ← Nat.pow_add]
    exact above.trans_le (Nat.pow_le_pow_right (by decide) (by omega))

/-- A positive number that is not below the least positive double is rounded to a positive number
that can be written. -/
theorem roundWithAccuracy_pos {mantissa : Nat} {exponent : Int} (positive : 0 < mantissa)
    (large : -1074 ≤ mantissa.log2 + exponent) (accuracy : Accuracy) :
    ∃ rounded place nonzero,
      roundWithAccuracy .binary64 .positive mantissa exponent accuracy =
        .finite .positive rounded place nonzero ∧ rounded < 2 ^ 53 ∧ -1074 ≤ place := by
  obtain ⟨above, -, place⟩ := shifted positive large accuracy
  have rounds := above.trans_le (le_roundedMantissa _)
  have still :
      -1074 ≤ (shiftToTargetExponent .binary64 mantissa exponent accuracy).1.roundedMantissa.log2 +
      (shiftToTargetExponent .binary64 mantissa exponent accuracy).2 := by omega
  obtain ⟨nonzero, fits, least⟩ := shifted rounds still .exact
  refine ⟨_, _, nonzero, ?_, fits, least⟩
  unfold roundWithAccuracy
  exact dif_neg nonzero.ne'

/-! ## Writing and reading back -/

theorem sign_packComponents (sign : Sign) (exponent : BitVec 11) (mantissa : BitVec 52) :
    Sign.ofBitVec (unpackSign (packComponents .binary64 sign exponent mantissa)) = sign := by
  simp only [unpackSign, packComponents, BitVec.extractLsb]
  rw [BitVec.extractLsb'_append_eq_of_le (by decide),
    BitVec.extractLsb'_append_eq_of_le (by decide)]
  cases sign <;> rfl

/-- What is read from parts with a positive sign is positive, unless it is zero or undefined. -/
theorem isPositive_packComponents {exponent : BitVec 11} {mantissa : BitVec 52}
    (defined : exponent ≠ -1#11) (nonzero : exponent ≠ 0#11 ∨ mantissa ≠ 0#52) :
    IsPositive (UnpackedFloat.unpack .binary64
      (packComponents .binary64 .positive exponent mantissa)) := by
  rw [UnpackedFloat.unpack]
  simp only [unpackMantissa_packComponents, unpackExponent_packComponents, sign_packComponents]
  rw [if_neg defined]
  split
  case isFalse _ => trivial
  case isTrue small =>
    rw [dif_neg (nonzero.resolve_left (not_not_intro small))]
    trivial

/-- A positive number that can be written is positive when it is read back. -/
theorem isPositive_pack {mantissa : Nat} {exponent : Int} (positive : 0 < mantissa)
    (fits : mantissa < 2 ^ 53) (least : -1074 ≤ exponent) :
    IsPositive (UnpackedFloat.unpack .binary64
      (UnpackedFloat.pack .binary64 (.finite .positive mantissa exponent positive))) := by
  have biased :
      (exponent + Format.binary64.exponentBias +
        Format.binary64.mantissaBitsWithoutImplicit).toNat =
      (exponent + 1075).toNat := by
    show (exponent + (1023 : Nat) + (52 : Nat)).toNat = _
    omega
  have above : 1 ≤ (exponent + 1075).toNat := by omega
  rw [UnpackedFloat.pack]
  simp only [biased]
  generalize (exponent + 1075).toNat = place at above
  split
  case isTrue _ => trivial
  case isFalse bounded =>
    have small : place + 1 < 2 ^ 11 := Nat.lt_of_not_le bounded
    split
    case isTrue normal =>
      refine isPositive_packComponents ?_ (.inl ?_)
      · rw [ne_eq, ← BitVec.toNat_inj, BitVec.toNat_ofNat, Nat.mod_eq_of_lt (by omega)]
        exact fun same => absurd (same.trans (by decide : (-1#11).toNat = 2047)) (by omega)
      · rw [ne_eq, ← BitVec.toNat_inj, BitVec.toNat_ofNat, Nat.mod_eq_of_lt (by omega)]
        exact Nat.ne_of_gt above
    case isFalse subnormal =>
      have below : mantissa.log2 ≠ 52 := fun same => subnormal (congrArg (· + 1) same)
      have less : mantissa < 2 ^ 52 := by
        refine (Nat.log2_lt positive.ne').mp ?_
        have := (Nat.log2_lt positive.ne').mpr fits
        omega
      refine isPositive_packComponents (by decide) (.inr ?_)
      rw [ne_eq, ← BitVec.toNat_inj, BitVec.toNat_ofNat, Nat.mod_eq_of_lt less]
      exact positive.ne'

/-- The exponent of a double is not below that of the least positive one. -/
theorem le_exponent {x : Float} {sign : Sign} {mantissa : Nat} {exponent : Int}
    {positive : 0 < mantissa} (read : x.toModel.unpack = .finite sign mantissa exponent positive) :
    -1074 ≤ exponent := by
  rw [Float.Model.unpack, UnpackedFloat.unpack] at read
  dsimp only at read
  have bias : Format.binary64.exponentBias = 1023 := by decide
  split at read
  case isTrue _ => split at read <;> cases read
  case isFalse _ =>
    split at read
    case isTrue _ =>
      split at read
      case isTrue _ => cases read
      case isFalse _ =>
        injection read
        omega
    case isFalse nonzero =>
      have above := Nat.pos_of_ne_zero fun same => nonzero (BitVec.eq_of_toNat_eq same)
      injection read
      omega

/-- Twice a positive number is positive. -/
theorem isPositive_twice {x : Float} (positive : IsPositive x.toModel.unpack) :
    IsPositive (Scalar.two * x).toModel.unpack := by
  show IsPositive (UnpackedFloat.unpack .binary64 (UnpackedFloat.pack .binary64
    (UnpackedFloat.mul .binary64 (Scalar.two : Float).toModel.unpack x.toModel.unpack)))
  rw [unpack_two]
  cases read : x.toModel.unpack with
  | notANumber | zero sign =>
      rw [read] at positive
      cases positive
  | infinity sign =>
      rw [read] at positive
      cases sign with
      | positive => trivial
      | negative => cases positive
  | finite sign mantissa exponent above =>
      rw [read] at positive
      cases sign with
      | negative => cases positive
      | positive =>
          have least := le_exponent read
          have product : 0 < 2 ^ 52 * mantissa := by omega
          have large : -1074 ≤ ((2 ^ 52 * mantissa).log2 : Int) + (-51 + exponent) := by
            have top : 52 ≤ (2 ^ 52 * mantissa).log2 := (Nat.le_log2 product.ne').mpr (by omega)
            omega
          obtain ⟨rounded, place, nonzero, same, fits, least⟩ :=
            roundWithAccuracy_pos product large .exact
          rw [UnpackedFloat.mul, show Sign.positive * Sign.positive = Sign.positive from rfl, same]
          exact isPositive_pack nonzero fits least

/-- Difference quotients of doubles. -/
instance : Scalar.Cancels Float where
  forward finite positive := by
    rw [sub_self finite, zero_div (isPositive_of_lt positive)]
  central finite positive := by
    rw [sub_self finite, zero_div (isPositive_twice (isPositive_of_lt positive))]

end Binary64

end PlanarSketch
