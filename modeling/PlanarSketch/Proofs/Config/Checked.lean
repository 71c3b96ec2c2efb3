import PlanarSketch.Config
import PlanarSketch.Proofs.Checked
import PlanarSketch.Proofs.Json.Field

/-!
# Configurations that were checked

Every setting of a configuration that the checks let through passes its own check again, in the form
in which the configuration writes it (`Config.Settled`). So a checked configuration, written as a
record, is read back as it is (`Config.Settled.check_toFields`), and a run under it may take at
least one iteration (`Config.Settled.budget_pos`).
-/

set_option autoImplicit false

namespace PlanarSketch

theorem Json.toNumber_toJson (number : Number) : number.toJson.toNumber = .ok number := by
  rw [Json.toNumber, Number.ofJson?_toJson]

namespace Config

/-- A configuration whose settings all pass their checks. -/
structure Settled (config : Config) : Prop where
  maxIterations : checkIterations (.int config.maxIterations) = .ok config.maxIterations
  tolerance : checkTolerance config.tolerance.toJson = .ok config.tolerance
  dampingFactor : checkDamping config.dampingFactor.toJson = .ok config.dampingFactor
  mode : checkMode (.str config.mode.name) = .ok config.mode
  epsilon : checkEpsilon config.epsilon.toJson = .ok config.epsilon
  pivotTolerance : checkPivotTolerance config.pivotTolerance.toJson = .ok config.pivotTolerance
  maxRankDeficiency : checkDeficiency ((config.maxRankDeficiency.map Number.toJson).getD .null) =
    .ok config.maxRankDeficiency

/-! ## What each check lets through passes it again -/

theorem checkIterations_again {value : Json} {iterations : Int}
    (checked : checkIterations value = .ok iterations) :
    checkIterations (.int iterations) = .ok iterations := by
  unfold checkIterations at checked
  split at checked
  case h_2 _ => cases checked
  case h_1 n =>
    split at checked
    case isTrue _ => cases checked
    case isFalse positive =>
      cases checked
      rw [checkIterations, if_neg positive]

theorem checkTolerance_again {value : Json} {tolerance : Number}
    (checked : checkTolerance value = .ok tolerance) :
    checkTolerance tolerance.toJson = .ok tolerance := by
  obtain ⟨number, _, rest⟩ := ok_of_bind checked
  rw [checkTolerance, Json.toNumber_toJson]
  split at rest
  case isTrue _ => cases rest
  case isFalse fits =>
    split at rest
    case isFalse _ => cases rest
    case isTrue within =>
      cases rest
      simp only [bind, Except.bind]
      rw [if_neg fits, if_pos within]

/-- A setting that is a number, and passes when it satisfies a test, passes again. -/
theorem checkNumber_again {test : Number → Bool} {cause : Number → Error Float} {value : Json}
    {number : Number}
    (checked : (do
      let given ← value.toNumber
      if test given then .ok given else .error (cause given)) = Except.ok number) :
    (do
      let given ← number.toJson.toNumber
      if test given then .ok given else .error (cause given)) = Except.ok number := by
  obtain ⟨given, _, rest⟩ := ok_of_bind checked
  rw [Json.toNumber_toJson]
  split at rest
  case isFalse _ => cases rest
  case isTrue within =>
    cases rest
    simp only [bind, Except.bind]
    rw [if_pos within]

theorem checkMode_name (mode : DerivativeMode) : checkMode (.str mode.name) = .ok mode := by
  cases mode <;> rfl

theorem checkDeficiency_again {value : Json} {limit : Option Number}
    (checked : checkDeficiency value = .ok limit) :
    checkDeficiency ((limit.map Number.toJson).getD .null) = .ok limit := by
  unfold checkDeficiency at checked
  split at checked
  case h_1 _ =>
    cases checked
    rfl
  case h_2 _ =>
    obtain ⟨number, _, rest⟩ := ok_of_bind checked
    split at rest
    case isTrue _ => cases rest
    case isFalse allowed =>
      cases rest
      have read := Json.toNumber_toJson number
      cases number <;>
        · rw [Option.map_some, Option.getD_some]
          unfold checkDeficiency
          simp only [Number.toJson] at read ⊢
          rw [read]
          exact if_neg allowed

/-! ## Checked configurations -/

/-- **A configuration that was checked is settled.** -/
theorem settled_of_check {fields : List (Text × Json)} {config : Config}
    (checked : check fields = .ok config) : config.Settled := by
  obtain ⟨maxIterations, iterated, checked⟩ := ok_of_bind checked
  obtain ⟨tolerance, tolerated, checked⟩ := ok_of_bind checked
  obtain ⟨dampingFactor, damped, checked⟩ := ok_of_bind checked
  obtain ⟨mode, derived, checked⟩ := ok_of_bind checked
  obtain ⟨epsilon, stepped, checked⟩ := ok_of_bind checked
  obtain ⟨pivotTolerance, pivoted, checked⟩ := ok_of_bind checked
  obtain ⟨maxRankDeficiency, limited, checked⟩ := ok_of_bind checked
  cases checked
  exact {
    maxIterations := checkIterations_again iterated
    tolerance := checkTolerance_again tolerated
    dampingFactor := checkNumber_again damped
    mode := checkMode_name mode
    epsilon := checkNumber_again stepped
    pivotTolerance := checkNumber_again pivoted
    maxRankDeficiency := checkDeficiency_again limited }

theorem settled_ofJson {record : Json} {config : Config} (read : ofJson record = .ok config) :
    config.Settled := by
  unfold ofJson at read
  split at read
  · exact settled_of_check read
  · cases read

/-- The settings of a new configuration pass their checks. -/
theorem settled_default : Settled {} := @settled_of_check [] {} rfl

/-- The settings of a configuration pass their checks when it is built from a record, or a new one
for want of a record. -/
theorem settled_getD {record : Option Json} {config : Option Config}
    (read : record.mapM ofJson = .ok config) : (config.getD {}).Settled := by
  cases record with
  | none =>
      cases read
      exact settled_default
  | some record =>
      obtain ⟨made, built, done⟩ := ok_of_bind
        (show (do return some (← ofJson record)) = Except.ok config from read)
      cases done
      exact settled_ofJson built

/-- **A settled configuration is read back from its record.** -/
theorem Settled.check_toFields {config : Config} (settled : config.Settled) :
    check config.toFields = .ok config := by
  rw [check]
  simp [Json.optional, toFields, settled.maxIterations, settled.tolerance, settled.dampingFactor,
    settled.mode, settled.epsilon, settled.pivotTolerance, settled.maxRankDeficiency, bind,
    Except.bind, pure, Except.pure]

/-- A run under a settled configuration may take an iteration. -/
theorem Settled.budget_pos {config : Config} (settled : config.Settled) :
    0 < config.settings.budget := by
  have checked := settled.maxIterations
  rw [checkIterations] at checked
  split at checked
  case isTrue _ => cases checked
  case isFalse positive =>
    rw [settings]
    dsimp only
    omega

/-- A run under a settled configuration does not refuse a correction that skips nothing. -/
theorem Settled.exceedsLimit_zero {config : Config} (settled : config.Settled) :
    config.settings.exceedsLimit 0 = false := by
  rw [settings, Settings.exceedsLimit]
  dsimp only
  cases known : config.maxRankDeficiency with
  | none => rfl
  | some limit =>
      have checked := settled.maxRankDeficiency
      rw [known, Option.map_some, Option.getD_some] at checked
      unfold checkDeficiency at checked
      split at checked
      case h_1 _ => cases checked
      case h_2 _ =>
        obtain ⟨number, read, rest⟩ := ok_of_bind checked
        rw [Json.toNumber_toJson] at read
        cases read
        split at rest
        case isTrue _ => cases rest
        case isFalse allowed => exact Bool.eq_false_iff.mpr allowed

end Config

end PlanarSketch
