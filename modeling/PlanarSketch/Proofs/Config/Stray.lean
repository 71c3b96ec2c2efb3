import PlanarSketch.Config
import PlanarSketch.Proofs.Error.Family

/-!
# Configurations whose reading strays

The settings of a configuration are checked one after the other, and a setting out of range is one
of the sketch's own errors. A setting that is to be a number and is none strays, and so does a
tolerance too large for a double, unless an earlier setting is out of range
(`Config.failsIn_check`). Modes and the number of iterations never stray.
-/

set_option autoImplicit false

namespace PlanarSketch

variable {family : ErrorFamily}

/-- A value is no number, which is an error of its sort. -/
def Json.NoNumber (family : ErrorFamily) (value : Json) : Prop :=
  family = .sort ∧ Number.ofJson? value = none

theorem Json.failsIn_toNumber (value : Json) :
    FailsIn family value.toNumber ↔ NoNumber family value := by
  unfold toNumber NoNumber
  split
  case h_1 found => simp [found]
  case h_2 none => simp [none, Error.family, eq_comm]

namespace Config

/-- The setting of a record with a name; its default when the record does not have it. -/
def given (fields : List (Text × Json)) (name : Text) : Json :=
  Json.optional name (Json.optional name .null (toFields {})) fields

/-- A value passes a check. -/
def Passes {β : Type} (check : Json → Except (Error Float) β) (value : Json) : Prop :=
  ∃ setting, check value = .ok setting

/-- A tolerance is no number, or is too large for a double. -/
def NoTolerance (family : ErrorFamily) (value : Json) : Prop :=
  value.NoNumber family ∨
    family = .overflow ∧ ∃ number, value.toNumber = .ok number ∧ number.isOversize = true

/-- A limit is given that is no number. -/
def NoLimit (family : ErrorFamily) (value : Json) : Prop := value ≠ .null ∧ value.NoNumber family

/-- The first setting of a record that does not pass its check is no number, or a tolerance too
large for a double. -/
def Strays (fields : List (Text × Json)) (family : ErrorFamily) : Prop :=
  Passes checkIterations (given fields "max_iterations") ∧
    (NoTolerance family (given fields "tolerance") ∨
      Passes checkTolerance (given fields "tolerance") ∧
        ((given fields "damping_factor").NoNumber family ∨
          Passes checkDamping (given fields "damping_factor") ∧
            Passes checkMode (given fields "jacobian_mode") ∧
              ((given fields "fd_epsilon").NoNumber family ∨
                Passes checkEpsilon (given fields "fd_epsilon") ∧
                  ((given fields "pivot_tolerance").NoNumber family ∨
                    Passes checkPivotTolerance (given fields "pivot_tolerance") ∧
                      NoLimit family (given fields "max_rank_deficiency")))))

theorem NoTolerance.family_mem {value : Json} (none : NoTolerance family value) :
    family ∈ [.overflow, .sort] := by
  rcases none with ⟨rfl, _⟩ | ⟨rfl, _⟩ <;> decide

theorem Strays.family_mem {fields : List (Text × Json)} (strays : Strays fields family) :
    family ∈ [.overflow, .sort] := by
  obtain ⟨_, none | ⟨_, none | ⟨_, _, none | ⟨_, none | ⟨_, _, none⟩⟩⟩⟩⟩ := strays
  · exact none.family_mem
  all_goals exact List.mem_cons_of_mem _ (List.mem_singleton.mpr none.1)

theorem failsIn_checkIterations (foreign : family.isOwn = false) (value : Json) :
    ¬ FailsIn family (checkIterations value) := by
  unfold checkIterations
  split
  · split
    · exact not_failsIn_own foreign rfl
    · exact id
  · exact not_failsIn_own foreign rfl

theorem failsIn_checkTolerance (foreign : family.isOwn = false) (value : Json) :
    FailsIn family (checkTolerance value) ↔ NoTolerance family value := by
  rw [checkTolerance, failsIn_bind, Json.failsIn_toNumber]
  refine or_congr_right ⟨?_, ?_⟩
  · rintro ⟨number, numeric, fails⟩
    split at fails
    case isTrue large => exact ⟨fails.symm, number, numeric, large⟩
    case isFalse =>
      split at fails
      · cases fails
      · exact absurd fails (not_failsIn_own foreign rfl)
  · rintro ⟨rfl, number, numeric, large⟩
    refine ⟨number, numeric, ?_⟩
    rw [if_pos large]
    rfl

/-- A setting that is a number fails in the sketch's own family when it does not satisfy a test. -/
theorem failsIn_checkNumber (foreign : family.isOwn = false) (test : Number → Bool)
    (cause : Number → SettingError) (value : Json) :
    FailsIn family (do
      let given ← value.toNumber
      if test given then Except.ok given else .error (.setting (cause given))) ↔
        value.NoNumber family := by
  rw [failsIn_bind, Json.failsIn_toNumber]
  refine or_iff_left ?_
  rintro ⟨number, _, fails⟩
  split at fails
  · exact fails
  · exact not_failsIn_own foreign rfl fails

theorem failsIn_checkMode (foreign : family.isOwn = false) (value : Json) :
    ¬ FailsIn family (checkMode value) := by
  unfold checkMode
  split
  · exact id
  · exact not_failsIn_own foreign rfl

theorem failsIn_checkDeficiency (foreign : family.isOwn = false) (value : Json) :
    FailsIn family (checkDeficiency value) ↔ NoLimit family value := by
  unfold checkDeficiency NoLimit
  split
  case h_1 => simp
  case h_2 given =>
    rw [failsIn_bind, Json.failsIn_toNumber, or_iff_left, and_iff_right (by assumption)]
    rintro ⟨number, _, fails⟩
    split at fails
    · exact not_failsIn_own foreign rfl fails
    · exact fails

/-- **A configuration strays at its first setting that is no number.** -/
theorem failsIn_check (foreign : family.isOwn = false) (fields : List (Text × Json)) :
    FailsIn family (check fields) ↔ Strays fields family := by
  have damping (value : Json) : FailsIn family (checkDamping value) ↔ value.NoNumber family :=
    failsIn_checkNumber foreign (fun damping => damping.isPositive && damping.isAtMostOne)
      .damping value
  have epsilon (value : Json) : FailsIn family (checkEpsilon value) ↔ value.NoNumber family :=
    failsIn_checkNumber foreign Number.isPositive .epsilon value
  have pivot (value : Json) : FailsIn family (checkPivotTolerance value) ↔ value.NoNumber family :=
    failsIn_checkNumber foreign Number.isNonNegative .pivotTolerance value
  simp only [check, failsIn_bind, failsIn_checkIterations foreign, failsIn_checkTolerance foreign,
    damping, failsIn_checkMode foreign, epsilon, pivot, failsIn_checkDeficiency foreign,
    failsIn_pure, and_false, exists_false, or_false, false_or, exists_and_right]
  rfl

end Config

end PlanarSketch
