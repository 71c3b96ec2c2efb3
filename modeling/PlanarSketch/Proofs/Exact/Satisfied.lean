import Mathlib
import PlanarSketch.Proofs.Exact.Solve

/-!
# Success and the single constraints

A run converges by the length of all residuals together, while each constraint is satisfied or not
by its own residual and its own tolerance, measured afresh when the run is over. Read exactly no
component is longer than the whole (`Scalar.abs_le_norm`), and both are measured at the values the
run leaves.

So a solve that succeeds satisfies every constraint that is no stricter than the solve
(`Store.solve_satisfies`): those it reports as unsatisfied have tolerances of their own that are
smaller.
-/

set_option autoImplicit false

namespace PlanarSketch

/-- No component of a vector is longer than the vector. -/
theorem Scalar.abs_le_norm {xs : List ℝ} {x : ℝ} (member : x ∈ xs) : |x| ≤ norm xs := by
  have squares : ∀ y ∈ xs.map fun x => x * x, 0 ≤ y :=
    List.forall_mem_map.mpr fun y _ => mul_self_nonneg y
  rw [norm, sum_eq, ← Real.sqrt_mul_self_eq_abs]
  exact Real.sqrt_le_sqrt (List.single_le_sum squares _ (List.mem_map_of_mem member))

namespace Store

variable {store : Store ℝ} {values : Array ℝ}

/-- The residuals of a run are those that are reported afterwards. -/
theorem residuals_laid (store : Store ℝ) (values : Array ℝ) :
    ((Layout.laid store).residuals values).toList =
      store.constraints.map fun constraint => (store.reportAt values constraint).residual := by
  change ((Layout.laid store).bound.map (Bound.residual values)).toList = _
  rw [Array.toList_map, Layout.laid, List.toList_toArray, List.map_map]
  rfl

/-- **Where all residuals together are small, each constraint that is no stricter is satisfied.** -/
theorem satisfied_of_norm_lt {level : ℝ}
    (small : Layout.residualNorm ((Layout.laid store).residuals values) < level)
    {constraint : Constraint ℝ} (member : constraint ∈ store.constraints)
    (loose : level ≤ constraint.tolerance) :
    (store.reportAt values constraint).satisfied = true := by
  rw [Layout.residualNorm, residuals_laid] at small
  have among :=
    List.mem_map_of_mem (f := fun constraint => (store.reportAt values constraint).residual) member
  refine (Scalar.lt_iff _ _).mpr ?_
  calc |(store.reportAt values constraint).residual|
      ≤ Scalar.norm (store.constraints.map fun constraint =>
        (store.reportAt values constraint).residual) :=
        Scalar.abs_le_norm among
    _ < level := small
    _ ≤ constraint.tolerance := loose

theorem notedAt_of_satisfied {constraint : Constraint ℝ}
    (satisfied : (store.reportAt values constraint).satisfied = true) :
    store.notedAt values constraint = { constraint with satisfied := Json.bool true } := by
  rw [notedAt, satisfied]

variable {outcome : Outcome ℝ} {solved : Solved ℝ} {report : Report ℝ}

/-- A solve leaves under each name the constraint that was there, with a note. -/
theorem Reported.constraint? (made : store.Reported outcome solved report) (name : Text) :
    solved.store.constraint? name = (store.constraint? name).map
      (store.notedAt outcome.values) := by
  rw [made.after]
  exact Ledger.find?_map (f := store.notedAt outcome.values) (fun _ => rfl) name store.constraints

/-- A solve reports under each name how the constraint stands that was there. -/
theorem Reported.find?_constraints (made : store.Reported outcome solved report) (name : Text) :
    Ledger.find? name report.constraints = (store.constraint? name).map
      (store.reportAt outcome.values) := by
  rw [made.constraints]
  exact Ledger.find?_map (f := store.reportAt outcome.values) (fun _ => rfl) name store.constraints

/-- A constraint that is reported as unsatisfied is one of the store that does not stand well. -/
theorem Reported.exists_of_mem_unsatisfied (made : store.Reported outcome solved report)
    {name : Text} (member : name ∈ report.unsatisfied) :
    ∃ constraint ∈ store.constraints, constraint.name = name ∧
      (store.reportAt outcome.values constraint).satisfied = false := by
  rw [Report.unsatisfied, made.constraints] at member
  obtain ⟨reported, among, rfl⟩ := List.mem_map.mp member
  obtain ⟨present, missed⟩ := List.mem_filter.mp among
  obtain ⟨constraint, own, rfl⟩ := List.mem_map.mp present
  exact ⟨constraint, own, rfl, by simpa using missed⟩

/-- **Success satisfies every constraint that is no stricter than the solve.** -/
theorem solve_satisfies (coherent : store.Coherent) (settings : Settings ℝ) (formulas : Formulas ℝ)
    (polls : ℕ → Bool) :
    ∃ solved report, store.solve settings formulas polls = .ok solved ∧ solved.report = .ok report ∧
      (report.success = true →
        (∀ constraint ∈ store.constraints, settings.tolerance ≤ constraint.tolerance →
          solved.store.constraint? constraint.name =
            some { constraint with satisfied := Json.bool true } ∧
          ∃ reported, Ledger.find? constraint.name report.constraints = some reported ∧
            reported.satisfied = true) ∧
        ∀ name ∈ report.unsatisfied, ∃ constraint, store.constraint? name = some constraint ∧
          constraint.tolerance < settings.tolerance) := by
  obtain ⟨solved, report, done, reports, made⟩ := exists_report_of coherent settings formulas polls
  refine ⟨solved, report, done, reports, fun success => ?_⟩
  have converged : (Newton.run { layout := Layout.laid store, settings, formulas } polls
      store.parameters.toArray).ending = .converged := made.ending.symm.trans
        (of_decide_eq_true success)
  have small := (Scalar.lt_iff _ _).mp (Newton.run_converged converged).2.2
  generalize Newton.run { layout := Layout.laid store, settings, formulas } polls
    store.parameters.toArray = outcome at *
  have found {constraint : Constraint ℝ} (member : constraint ∈ store.constraints) :
      store.constraint? constraint.name = some constraint :=
    Ledger.find?_of_mem coherent.constraintNames member
  constructor
  · intro constraint member loose
    have satisfied := satisfied_of_norm_lt small member loose
    rw [made.constraint?, made.find?_constraints, found member, Option.map_some, Option.map_some,
      notedAt_of_satisfied satisfied]
    exact ⟨rfl, _, rfl, satisfied⟩
  · intro name unsatisfied
    obtain ⟨constraint, member, rfl, missed⟩ := made.exists_of_mem_unsatisfied unsatisfied
    refine ⟨constraint, found member, lt_of_not_ge fun loose => ?_⟩
    rw [satisfied_of_norm_lt small member loose] at missed
    cases missed

namespace Pair

/-- The same distance with another tolerance. -/
noncomputable def lenient (level : ℝ) : Constraint ℝ :=
  { apart with name := .ofString "E", tolerance := level }

/-- The two points, wanted at their distance strictly and less strictly. -/
noncomputable def twice (level : ℝ) : Store ℝ :=
  { entities := [pinned, loose], constraints := [apart, lenient level] }

/-- Settings with another tolerance. -/
noncomputable def coarse (level : ℝ) : Settings ℝ := { settings with tolerance := level }

variable (level : ℝ)

theorem coherent_twice : (twice level).Coherent := by
  have filed : ordered.addConstraint (lenient level) = .ok (twice level) := by rfl
  exact coherent_ordered.addConstraint filed

/-- How a constraint on the two points stands at the start. -/
noncomputable def standing (constraint : Constraint ℝ) : ConstraintReport ℝ :=
  (twice level).reportAt (twice level).parameters.toArray constraint

variable {level} {constraint : Constraint ℝ}

theorem residual_standing (member : constraint ∈ (twice level).constraints) :
    (standing level constraint).residual = -1 := by
  have relation : (Layout.boundOf (Block.ofEntities 0 (twice level).entities) constraint).relation =
      .distance ⟨.point, 0⟩ ⟨.point, 2⟩ := by
    rcases List.mem_pair.mp member with rfl | rfl <;> rfl
  have target :
      (Layout.boundOf (Block.ofEntities 0 (twice level).entities) constraint).target = 2 := by
    rcases List.mem_pair.mp member with rfl | rfl <;> rfl
  rw [standing, reportAt, Bound.residual, relation, target]
  simp [Relation.map, Relation.residual, Relation.separation, Operand.shape, Shape.ofReader, twice,
    parameters, pinned, loose, Entity.parameters, Shape.toList, Shape.anchor, Scalar.hypot_eq]
  norm_num

theorem satisfied_standing (member : constraint ∈ (twice level).constraints) :
    (standing level constraint).satisfied = within (-1) constraint.tolerance := by
  rw [← residual_standing member]
  rfl

/-- A run for which the norm at the start is small ends there. -/
theorem run_twice (above : Real.sqrt 2 < level) :
    Newton.run
        { layout := Layout.laid (twice level), settings := coarse level, formulas := .standard }
        (fun _ => false) (twice level).parameters.toArray =
      ((Newton.State.initial (twice level).parameters.toArray).record (Real.sqrt 2)).stop
        .converged 1 (some (Real.sqrt 2)) (twice level).parameters.toArray := by
  have residuals : ((twice level).constraints.map fun constraint =>
      ((twice level).reportAt (twice level).parameters.toArray constraint).residual) = [-1, -1] :=
    List.map_congr_left fun _ member => residual_standing member
  have norm :
      Layout.residualNorm ((Layout.laid (twice level)).residuals (twice level).parameters.toArray) =
      Real.sqrt 2 := by
    rw [Layout.residualNorm, residuals_laid, residuals, Scalar.norm, Scalar.sum_eq]
    exact congrArg Real.sqrt (by norm_num)
  rw [← norm] at above ⊢
  exact Newton.run_of_small one_pos rfl (Scalar.isFinite_eq _) ((Scalar.lt_iff _ _).mpr above)

end Pair

/-- Two residuals of one make a norm below two. The solve succeeds at once, satisfies the lenient
constraint and reports the strict one. -/
theorem solve_twice_satisfies :
    ∃ solved report, (Pair.twice 2).solve (Pair.coarse 2) .standard (fun _ => false) = .ok solved ∧
      solved.report = .ok report ∧ report.success = true ∧
      solved.store.constraint? (.ofString "E") =
        some { Pair.lenient 2 with satisfied := Json.bool true } ∧
      report.unsatisfied = [.ofString "D"] := by
  obtain ⟨solved, report, done, reports, holds⟩ :=
    solve_satisfies (Pair.coherent_twice 2) (Pair.coarse 2) .standard fun _ => false
  obtain ⟨_, _, done', reports', made⟩ :=
    exists_report_of (Pair.coherent_twice 2) (Pair.coarse 2) .standard fun _ => false
  cases done.symm.trans done'
  cases reports.symm.trans reports'
  have above : Real.sqrt 2 < 2 := by
    rw [Real.sqrt_lt' two_pos]
    norm_num
  rw [Pair.run_twice above] at made
  have success : report.success = true := by
    rw [Report.success, made.ending]
    rfl
  refine ⟨solved, report, done, reports, success, ?_, ?_⟩
  · exact ((holds success).1 (Pair.lenient 2) (List.mem_pair.mpr (.inr rfl)) le_rfl).1
  · have strict : (Pair.standing 2 Pair.apart).satisfied = false := by
      rw [Pair.satisfied_standing (List.mem_pair.mpr (.inl rfl))]
      norm_num [within, Scalar.lt_eq_false_iff, Pair.apart]
    have mild : (Pair.standing 2 (Pair.lenient 2)).satisfied = true := by
      rw [Pair.satisfied_standing (List.mem_pair.mpr (.inr rfl))]
      norm_num [within, Pair.lenient]
    have reported :
        report.constraints = [Pair.standing 2 Pair.apart, Pair.standing 2 (Pair.lenient 2)] :=
      made.constraints
    have name : (Pair.standing 2 Pair.apart).name = .ofString "D" := rfl
    simp [Report.unsatisfied, reported, strict, mild, name]

end Store

end PlanarSketch
