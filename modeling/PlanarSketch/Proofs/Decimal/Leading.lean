import Mathlib.Data.List.DropRight
import Mathlib.Tactic.Ring
import PlanarSketch.Decimal.Digits

/-!
# The first digit

A number is at least the power of ten of its leading exponent (`Digits.le_leadingExponent`), so in
units of a lower power its whole part already has as many digits as asked for. Hence the shortest
digits of a double start with a digit that is not zero (`Digits.trimmedChars_shortest`): no digit is
padding.
-/

set_option autoImplicit false

namespace PlanarSketch

/-- Rounding a quotient does not go below its whole part. -/
theorem div_le_divNearest (numerator denominator : Nat) :
    numerator / denominator ≤ divNearest numerator denominator := by
  unfold divNearest
  dsimp only
  split
  · exact Nat.le_refl _
  · split <;> omega

namespace Digits

/-! ## The leading exponent -/

theorem mul_tensBelow_le {numerator denominator : Nat} (fuel : Nat)
    (below : denominator ≤ numerator) :
    denominator * 10 ^ tensBelow fuel numerator denominator ≤ numerator := by
  induction fuel generalizing denominator with
  | zero => simpa [tensBelow] using below
  | succ fuel ih =>
      rw [tensBelow]
      split
      case isTrue again =>
        have deeper := ih again
        rw [Nat.pow_succ]
        calc denominator * (10 ^ tensBelow fuel numerator (10 * denominator) * 10)
            = 10 * denominator * 10 ^ tensBelow fuel numerator (10 * denominator) := by ring
          _ ≤ numerator := deeper
      case isFalse _ => simpa using below

theorem le_mul_tensAbove {numerator denominator : Nat} (fuel : Nat)
    (enough : denominator ≤ numerator * 10 ^ fuel) :
    denominator ≤ numerator * 10 ^ tensAbove fuel numerator denominator := by
  induction fuel generalizing numerator with
  | zero => simpa [tensAbove] using enough
  | succ fuel ih =>
      rw [tensAbove]
      split
      case isTrue _ =>
        have shifted : numerator * 10 ^ (fuel + 1) = 10 * numerator * 10 ^ fuel := by ring
        rw [shifted] at enough
        have deeper := ih enough
        rw [Nat.pow_succ]
        calc denominator ≤ 10 * numerator * 10 ^ tensAbove fuel (10 * numerator) denominator :=
          deeper
          _ = numerator * (10 ^ tensAbove fuel (10 * numerator) denominator * 10) := by ring
      case isFalse reached => simpa using Nat.le_of_not_lt reached

/-- A fraction is at least the power of ten of its leading exponent, unless it is smaller than any
double. -/
theorem le_leadingExponent {numerator denominator : Nat}
    (inRange : denominator ≤ numerator * 10 ^ span) :
    denominator * 10 ^ (leadingExponent numerator denominator).toNat ≤
      numerator * 10 ^ (-leadingExponent numerator denominator).toNat := by
  rw [leadingExponent]
  split
  case isTrue _ =>
    have above := le_mul_tensAbove span inRange
    generalize tensAbove span numerator denominator = places at above
    rw [Int.neg_neg, Int.toNat_natCast, Int.toNat_neg_natCast, Nat.pow_zero, Nat.mul_one]
    exact above
  case isFalse large =>
    have below := mul_tensBelow_le span (Nat.le_of_not_lt large)
    generalize tensBelow span numerator denominator = places at below
    rw [Int.toNat_natCast, Int.toNat_neg_natCast, Nat.pow_zero, Nat.mul_one]
    exact below

/-- In units of a power of ten that is lower by some places, the whole part has as many digits
more. -/
theorem pow_le_inUnits {numerator denominator : Nat} (positive : 0 < denominator)
    (inRange : denominator ≤ numerator * 10 ^ span) (places : Nat) :
    let fraction := inUnits numerator denominator (leadingExponent numerator denominator - places)
    10 ^ places ≤ fraction.1 / fraction.2 := by
  have leads := le_leadingExponent inRange
  generalize leadingExponent numerator denominator = exponent at leads
  simp only [inUnits]
  split
  case isTrue coarse =>
    obtain ⟨steps, rfl⟩ : ∃ steps : Nat, exponent = (places + steps : Nat) :=
      ⟨(exponent - places).toNat, by omega⟩
    rw [show ((places + steps : Nat) : Int) - places = (steps : Int) by omega]
    rw [Int.toNat_natCast, Int.toNat_neg_natCast, Nat.pow_zero, Nat.mul_one] at leads
    have below : 0 < denominator * 10 ^ steps := Nat.mul_pos positive (Nat.pow_pos (by decide))
    rw [Int.toNat_natCast]
    refine (Nat.le_div_iff_mul_le below).mpr ?_
    calc 10 ^ places * (denominator * 10 ^ steps) = denominator * 10 ^ (places + steps) := by ring
      _ ≤ numerator := leads
  case isFalse fine =>
    rw [Nat.le_div_iff_mul_le positive]
    have up :
        (-(exponent - (places : Int))).toNat + exponent.toNat = places + (-exponent).toNat := by
      omega
    have tens : 0 < 10 ^ exponent.toNat := Nat.pow_pos (by decide)
    refine Nat.le_of_mul_le_mul_right ?_ tens
    calc 10 ^ places * denominator * 10 ^ exponent.toNat
        = 10 ^ places * (denominator * 10 ^ exponent.toNat) := by ring
      _ ≤ 10 ^ places * (numerator * 10 ^ (-exponent).toNat) := Nat.mul_le_mul_left _ leads
      _ = numerator * 10 ^ (places + (-exponent).toNat) := by ring
      _ = numerator * 10 ^ (-(exponent - (places : Int))).toNat * 10 ^ exponent.toNat := by
        rw [← up]
        ring

/-! ## Digits without padding -/

/-- Digits of which none is padding: the coefficient is as long as it says. -/
def Full (digits : Digits) : Prop := 10 ^ (digits.count - 1) ≤ digits.coefficient

/-- Eight binary places are less than three decimal ones. -/
theorem two_pow_le {k n : Nat} (bounded : k ≤ 8 * n) : 2 ^ k ≤ 10 ^ (3 * n) :=
  calc 2 ^ k ≤ 2 ^ (8 * n) := Nat.pow_le_pow_right (by decide) bounded
    _ = (2 ^ 8) ^ n := Nat.pow_mul 2 8 n
    _ ≤ (10 ^ 3) ^ n := Nat.pow_le_pow_left (by decide) n
    _ = 10 ^ (3 * n) := (Nat.pow_mul 10 3 n).symm

/-- The rounding interval of a double other than zero is in the range of doubles. -/
theorem interval_inRange {x : Dyadic} (nonzero : x.mantissa ≠ 0) (least : -1074 ≤ x.exponent) :
    0 < (Interval.ofDyadic x).denominator ∧
      (Interval.ofDyadic x).denominator ≤ (Interval.ofDyadic x).value * 10 ^ span := by
  have mantissa : 1 ≤ x.mantissa := Nat.one_le_iff_ne_zero.mpr nonzero
  simp only [Interval.ofDyadic]
  have tens : 0 < 10 ^ span := Nat.pow_pos (by decide)
  split
  case isTrue _ =>
    refine ⟨Nat.one_pos, ?_⟩
    have twos : 0 < Nat.pow 2 (x.exponent - 2).toNat := Nat.pow_pos (by decide)
    have value : 0 < Nat.pow 2 (x.exponent - 2).toNat * (4 * x.mantissa) :=
      Nat.mul_pos twos (by omega)
    exact Nat.mul_pos value tens
  case isFalse _ =>
    refine ⟨Nat.pow_pos (by decide), ?_⟩
    have value : 1 ≤ 1 * (4 * x.mantissa) := by omega
    calc Nat.pow 2 (2 - x.exponent).toNat ≤ 10 ^ (3 * 135) := two_pow_le (by omega)
      _ ≤ 10 ^ span := Nat.pow_le_pow_right (by decide) (by decide)
      _ ≤ 1 * (4 * x.mantissa) * 10 ^ span := Nat.le_mul_of_pos_left _ value

section Shortest

variable {interval : Interval} (positive : 0 < interval.denominator)
  (inRange : interval.denominator ≤ interval.value * 10 ^ span)
include positive inRange

theorem full_onGrid {places : Nat} {digits : Digits}
    (found : onGrid interval (leadingExponent interval.value interval.denominator) (places + 1) =
      some digits) : digits.Full := by
  have exponent :
      leadingExponent interval.value interval.denominator - ((places + 1 : Nat) : Int) + 1 =
      leadingExponent interval.value interval.denominator - places := by omega
  have whole := pow_le_inUnits positive inRange places
  unfold onGrid at found
  extract_lets scale fraction low member nearest pick at found
  rw [← exponent] at whole
  have above : 10 ^ places ≤ nearest := whole.trans (div_le_divNearest _ _)
  obtain ⟨coefficient, picked, made⟩ := Option.map_eq_some_iff.mp found
  have least : 10 ^ places ≤ coefficient := by
    simp only [pick] at picked
    split at picked
    case isTrue _ => exact Option.some.inj picked ▸ above
    case isFalse _ =>
      split at picked
      case isTrue _ => exact Option.some.inj picked ▸ whole
      case isFalse _ =>
        split at picked
        case isTrue _ => exact Option.some.inj picked ▸ Nat.le_succ_of_le whole
        case isFalse _ => cases picked
  split at made
  · cases made
    exact least
  · cases made
    exact Nat.le_refl 1

theorem full_rounded (places : Nat) :
    (rounded interval.value interval.denominator (places + 1)).Full := by
  have low := pow_le_inUnits positive inRange places
  have scale :
      leadingExponent interval.value interval.denominator - ((places + 1 : Nat) : Int) + 1 =
      leadingExponent interval.value interval.denominator - places := by omega
  unfold rounded
  simp only [scale]
  split
  · exact low.trans (div_le_divNearest _ _)
  · exact Nat.le_refl _

end Shortest

/-- The shortest digits of a double other than zero need no padding. -/
theorem full_shortest {x : Dyadic} (nonzero : x.mantissa ≠ 0) (least : -1074 ≤ x.exponent) :
    (shortest x).Full := by
  obtain ⟨positive, inRange⟩ := interval_inRange nonzero least
  unfold shortest
  simp only
  cases found : (List.range 17).findSome? fun k =>
      onGrid (Interval.ofDyadic x)
        (leadingExponent (Interval.ofDyadic x).value (Interval.ofDyadic x).denominator) (k + 1) with
  | none => exact full_rounded positive inRange 16
  | some digits =>
      obtain ⟨places, _, here⟩ := List.exists_of_findSome?_eq_some found
      exact full_onGrid positive inRange here

/-! ## Their characters -/

/-- Decimal digits of which the first is not zero. -/
structure Leads (chars : List Char) : Prop where
  digits : ∀ c ∈ chars, c.isDigit = true
  first : ∃ first rest, chars = first :: rest ∧ first ≠ '0'

theorem digitChar_ne_zero : ∀ n < 10, n ≠ 0 → n.digitChar ≠ '0' := by decide

theorem leads_toDigits {n : Nat} (positive : n ≠ 0) : Leads (Nat.toDigits 10 n) where
  digits := fun _ member => Nat.isDigit_of_mem_toDigits (by decide) (by decide) member
  first := by
    induction n using Nat.strongRecOn with
    | ind n ih =>
        rw [Nat.toDigits_eq_if (by decide)]
        split
        case isTrue small => exact ⟨n.digitChar, [], rfl, digitChar_ne_zero n small positive⟩
        case isFalse large =>
          obtain ⟨first, rest, same, nonzero⟩ := ih (n / 10) (by omega) (by omega)
          exact ⟨first, rest ++ [(n % 10).digitChar], by rw [same, List.cons_append], nonzero⟩

theorem toChars_of_full {digits : Digits} (full : digits.Full) :
    digits.toChars = Nat.toDigits 10 digits.coefficient := by
  have long : digits.count ≤ (Nat.toDigits 10 digits.coefficient).length := by
    rcases Nat.eq_zero_or_pos (digits.count - 1) with short | several
    · have atLeast : 0 < (Nat.toDigits 10 digits.coefficient).length := Nat.length_toDigits_pos
      omega
    · have small : digits.coefficient < 10 ^ (digits.count - 1) ↔ _ :=
        (Nat.length_toDigits_le_iff (by decide) several).symm
      have full : 10 ^ (digits.count - 1) ≤ digits.coefficient := full
      omega
  rw [toChars, Nat.sub_eq_zero_of_le long]
  rfl

theorem leads_trimmed {chars : List Char} (leads : Leads chars) :
    Leads (chars.reverse.dropWhile (· = '0')).reverse := by
  obtain ⟨first, rest, rfl, nonzero⟩ := leads.first
  have front : (List.dropWhile (· = '0') (first :: rest).reverse).reverse <+: first :: rest := by
    have tail := List.dropWhile_suffix (· = '0') (l := (first :: rest).reverse)
    rw [← List.reverse_prefix] at tail
    rwa [List.reverse_reverse] at tail
  refine ⟨fun c member => leads.digits c (front.subset member), ?_⟩
  cases kept : (List.dropWhile (· = '0') (first :: rest).reverse).reverse with
  | nil =>
      rw [List.reverse_eq_nil_iff, List.dropWhile_eq_nil_iff] at kept
      have zero := kept first (by simp)
      exact absurd (of_decide_eq_true zero) nonzero
  | cons c chars =>
      rw [kept] at front
      obtain ⟨same, _⟩ := List.cons_prefix_cons.mp front
      exact ⟨c, chars, rfl, same ▸ nonzero⟩

/-- **The shortest digits of a double start with a digit that is not zero.** -/
theorem trimmedChars_shortest {x : Dyadic} (nonzero : x.mantissa ≠ 0) (least : -1074 ≤ x.exponent) :
    Leads (shortest x).trimmedChars := by
  have full := full_shortest nonzero least
  have positive : (shortest x).coefficient ≠ 0 := by
    have some : 0 < 10 ^ ((shortest x).count - 1) := Nat.pow_pos (by decide)
    have enough : 10 ^ ((shortest x).count - 1) ≤ (shortest x).coefficient := full
    omega
  have leads := leads_trimmed (leads_toDigits positive)
  rw [trimmedChars, toChars_of_full full]
  split
  case h_1 empty =>
    rw [empty] at leads
    obtain ⟨_, _, absurd, _⟩ := leads.first
    cases absurd
  case h_2 _ => exact leads

end Digits

end PlanarSketch
