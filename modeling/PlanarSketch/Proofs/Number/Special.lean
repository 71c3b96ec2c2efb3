import Mathlib
import PlanarSketch.Binary64

/-!
# Doubles that are not finite

A double that is not a number is the undefined one, since its encoding is the canonical one, and an
infinite double is one of the two infinities.
-/

set_option autoImplicit false

namespace PlanarSketch

namespace Binary64

open Float.Model Float.Model.UnpackedFloat

/-- Doubles with the same encoding are the same. -/
theorem eq_of_toBits {x y : Float} (same : x.toModel.toBits.toBitVec = y.toModel.toBits.toBitVec) :
    x = y := by
  rcases x with ⟨⟨⟨_⟩, _⟩⟩
  rcases y with ⟨⟨⟨_⟩, _⟩⟩
  cases same
  rfl

/-- **A double that is not a number is the undefined one.** -/
theorem eq_undefined_of_isNaN {x : Float} (undefined : x.isNaN = true) :
    x = Binary64.undefined := by
  refine eq_of_toBits ?_
  rw [show Binary64.undefined.toModel.toBits.toBitVec = packedNaN Format.binary64 by decide +kernel]
  change (UnpackedFloat.unpack Format.binary64 x.toModel.toBits.toBitVec).isNaN = true at undefined
  rw [UnpackedFloat.unpack] at undefined
  dsimp only at undefined
  split at undefined
  case isTrue topExponent =>
    split at undefined
    case isTrue _ => cases undefined
    case isFalse nonzero => exact x.toModel.valid.eq_packedNaN topExponent nonzero
  case isFalse _ =>
    split at undefined
    · split at undefined <;> cases undefined
    · cases undefined

/-- An encoding is put together from its parts. -/
theorem packComponents_parts (bits : BitVec Format.binary64.numBits) :
    packComponents Format.binary64 (Sign.ofBitVec (unpackSign bits)) (unpackExponent bits)
      (unpackMantissa bits) = bits := by
  have sign (bit : BitVec 1) : (Sign.ofBitVec bit).toBitVec = bit := by
    revert bit
    decide
  rw [packComponents, sign]
  simp only [unpackSign, unpackExponent, unpackMantissa, BitVec.extractLsb]
  ext place inside
  grind

/-- **An infinite double is one of the two infinities.** -/
theorem eq_infinity_of_isInf {x : Float} (infinite : x.isInf = true) :
    x = if x < 0.0 then -Binary64.infinity else Binary64.infinity := by
  have parts : ∃ sign, x.toModel.toBits.toBitVec = packedInfinity Format.binary64 sign := by
    change (UnpackedFloat.unpack Format.binary64 x.toModel.toBits.toBitVec).isInf = true at infinite
    rw [UnpackedFloat.unpack] at infinite
    dsimp only at infinite
    split at infinite
    case isTrue topExponent =>
      split at infinite
      case isTrue zero =>
        have whole := packComponents_parts x.toModel.toBits.toBitVec
        rw [topExponent, zero] at whole
        exact ⟨_, whole.symm⟩
      case isFalse _ => cases infinite
    case isFalse _ =>
      split at infinite
      · split at infinite <;> cases infinite
      · cases infinite
  obtain ⟨sign, bits⟩ := parts
  cases sign with
  | positive =>
      have same : x = Binary64.infinity := eq_of_toBits (bits.trans (by decide +kernel))
      rw [same]
      decide +kernel
  | negative =>
      have same : x = -Binary64.infinity := eq_of_toBits (bits.trans (by decide +kernel))
      rw [same]
      decide +kernel

theorem isFinite_of_not {x : Float} (defined : x.isNaN = false) (bounded : x.isInf = false) :
    x.isFinite = true := by
  change x.toModel.unpack.isNaN = false at defined
  change x.toModel.unpack.isInf = false at bounded
  change x.toModel.unpack.isFinite = true
  cases parts : x.toModel.unpack with
  | notANumber =>
      rw [parts] at defined
      cases defined
  | infinity sign =>
      rw [parts] at bounded
      cases bounded
  | zero sign => rfl
  | finite sign mantissa exponent positive => rfl

end Binary64

end PlanarSketch
