import PlanarSketch.Error
import PlanarSketch.Proofs.Checked

/-!
# Failing in a family of errors

The errors of an operation on a sketch should be of the sketch's own families (`ErrorFamily.isOwn`).
Whether a computation fails in a given other family is found along its chain of checks
(`failsIn_bind`), where all checks that fail only with errors of the sketch's own drop out
(`not_failsIn_own`).
-/

set_option autoImplicit false

namespace PlanarSketch

/-- Whether a family is one of the sketch's own rules. -/
def ErrorFamily.isOwn : ErrorFamily → Bool
  | invalidEntity | invalidConstraint | constraintArity | missingValue | missingEntity | settings
  | document | linearSystem => true
  | _ => false

/-- A computation fails with an error of a family. -/
abbrev FailsIn {β : Type} (family : ErrorFamily) (result : Except (Error Float) β) : Prop :=
  FailsAs (fun error => error.family = family) result

theorem Error.family_eq_sort {error : Error Float} (sort : error.family = .sort) :
    ∃ cause, error = .mismatch cause := by
  cases error <;> cases sort
  exact ⟨_, rfl⟩

variable {family : ErrorFamily}

theorem failsIn_bind {β γ : Type} {first : Except (Error Float) β}
    {next : β → Except (Error Float) γ} :
    FailsIn family (first >>= next) ↔
      FailsIn family first ∨ ∃ middle, first = .ok middle ∧ FailsIn family (next middle) :=
  failsAs_bind

theorem failsIn_ok_bind {β γ : Type} {answer : β} {next : β → Except (Error Float) γ} :
    FailsIn family (.ok answer >>= next) ↔ FailsIn family (next answer) :=
  Iff.rfl

theorem failsIn_pure {β : Type} (answer : β) :
    FailsIn family (pure answer : Except (Error Float) β) ↔ False :=
  Iff.rfl

theorem not_failsIn_own {β : Type} (foreign : family.isOwn = false) {error : Error Float}
    (own : error.family.isOwn = true) :
    ¬ FailsIn family (.error error : Except (Error Float) β) := by
  rintro rfl
  rw [own] at foreign
  cases foreign

theorem not_failsIn_sort {β : Type} {result : Except (Error Float) β}
    (wellSorted : ∀ cause, result ≠ .error (.mismatch cause)) : ¬ FailsIn .sort result := by
  cases result with
  | ok => exact id
  | error error =>
      intro fails
      obtain ⟨cause, rfl⟩ := Error.family_eq_sort fails
      exact wellSorted cause rfl

/-- A result that is relabelled as malformed when a value is of the wrong sort, and kept otherwise,
fails in the other families where it failed before. -/
theorem failsIn_relabelled {β : Type} (foreign : family.isOwn = false)
    {result relabelled : Except (Error Float) β} {strays : Prop}
    (malformed : ∀ cause, result = .error (.mismatch cause) →
      ∃ error, relabelled = .error error ∧ error.family.isOwn = true)
    (kept : (∀ cause, result ≠ .error (.mismatch cause)) → relabelled = result)
    (fails : family ≠ .sort → (FailsIn family result ↔ strays)) (sorted : strays → family ≠ .sort) :
    FailsIn family relabelled ↔ strays := by
  by_cases mismatched : ∃ cause, result = .error (.mismatch cause)
  · obtain ⟨cause, found⟩ := mismatched
    obtain ⟨error, same, own⟩ := malformed cause found
    rw [same]
    refine iff_of_false (not_failsIn_own foreign own) fun strays => ?_
    have other := (fails (sorted strays)).mpr strays
    rw [found] at other
    exact sorted strays other.symm
  · have wellSorted := not_exists.mp mismatched
    rw [kept wellSorted]
    by_cases sort : family = .sort
    · subst sort
      exact iff_of_false (not_failsIn_sort wellSorted) fun strays => sorted strays rfl
    · exact fails sort

end PlanarSketch
