import PlanarSketch.Proofs.Config.Checked
import PlanarSketch.Proofs.Number.Value

/-!
# The bounds of a configuration

The bounds that the settings of a configuration have to keep, said of what they are worth
(`Config.Bounded`). The step of difference quotients and the pivot tolerance may be infinite. A
limit on skipped pivots may be undefined; then it limits nothing.

A settled configuration is within the bounds (`Config.Settled.bounded`).
-/

set_option autoImplicit false

namespace PlanarSketch

namespace Config

/-- A configuration whose settings are within their bounds. -/
structure Bounded (config : Config) : Prop where
  maxIterations : 1 ≤ config.maxIterations
  tolerance : config.tolerance.nearest.isFinite = true ∧
    ∃ x : ℝ, config.tolerance.value = some (x : EReal) ∧ 0 < x
  dampingFactor : ∃ x, config.dampingFactor.value = some x ∧ 0 < x ∧ x ≤ 1
  mode : config.mode.name ∈ ["forward", "central", "analytic"]
  epsilon : ∃ x, config.epsilon.value = some x ∧ 0 < x
  pivotTolerance : ∃ x, config.pivotTolerance.value = some x ∧ 0 ≤ x
  maxRankDeficiency : ∀ limit, config.maxRankDeficiency = some limit →
    ∀ x, limit.value = some x → 0 ≤ x

/-- A setting that is a number and passes has passed its test. -/
theorem test_of_checkNumber {test : Number → Bool} {cause : Number → Error Float} {number : Number}
    (checked : (do
      let given ← number.toJson.toNumber
      if test given then .ok given else .error (cause given)) = Except.ok number) :
    test number = true := by
  obtain ⟨given, read, rest⟩ := ok_of_bind checked
  rw [Json.toNumber_toJson] at read
  cases read
  split at rest
  case isTrue passed => exact passed
  case isFalse _ => cases rest

namespace Settled

variable {config : Config}

theorem one_le_maxIterations (settled : config.Settled) : 1 ≤ config.maxIterations := by
  have positive := settled.budget_pos
  rw [settings] at positive
  dsimp only at positive
  omega

theorem tolerance_test (settled : config.Settled) :
    config.tolerance.nearest.isFinite = true ∧ config.tolerance.isPositive = true := by
  obtain ⟨given, read, rest⟩ := ok_of_bind settled.tolerance
  rw [Json.toNumber_toJson] at read
  cases read
  split at rest
  case isTrue _ => cases rest
  case isFalse _ =>
    split at rest
    case isTrue passed => exact Bool.and_eq_true_iff.mp passed
    case isFalse _ => cases rest

theorem limit_test (settled : config.Settled) {limit : Number}
    (given : config.maxRankDeficiency = some limit) : limit.lt .zero = false := by
  have allowed := settled.exceedsLimit_zero
  rw [settings, Settings.exceedsLimit] at allowed
  dsimp only at allowed
  rwa [given] at allowed

/-- **A settled configuration is within its bounds.** -/
theorem bounded (settled : config.Settled) : config.Bounded where
  maxIterations := settled.one_le_maxIterations
  tolerance := by
    obtain ⟨finite, positive⟩ := settled.tolerance_test
    obtain ⟨x, worth⟩ := Number.exists_real finite
    obtain ⟨y, same, above⟩ := Number.isPositive_iff.mp positive
    rw [worth] at same
    cases same
    exact ⟨finite, x, worth, EReal.coe_pos.mp above⟩
  dampingFactor := by
    have passed := test_of_checkNumber settled.dampingFactor
    obtain ⟨positive, most⟩ := Bool.and_eq_true_iff.mp passed
    obtain ⟨x, worth, above⟩ := Number.isPositive_iff.mp positive
    obtain ⟨y, same, below⟩ := Number.isAtMostOne_iff.mp most
    rw [worth] at same
    cases same
    exact ⟨x, worth, above, below⟩
  mode := by
    cases config.mode <;> decide
  epsilon := Number.isPositive_iff.mp (test_of_checkNumber settled.epsilon)
  pivotTolerance := Number.isNonNegative_iff.mp (test_of_checkNumber settled.pivotTolerance)
  maxRankDeficiency := by
    intro limit given x worth
    have allowed := settled.limit_test given
    by_contra negative
    rw [Number.lt_iff.mpr ⟨x, 0, worth, Number.value_zero, not_le.mp negative⟩] at allowed
    cases allowed

end Settled

end Config

end PlanarSketch
