import Mathlib
import PlanarSketch.Proofs.Exact.Placement
import PlanarSketch.Proofs.Exact.Run
import PlanarSketch.Proofs.Solve.Solved

/-!
# Solving rearranged stores

Read exactly, a solve does not depend on the order in which entities and constraints were filed, nor
on which of two entities a constraint names first, unless a correction skips a pivot
(`Store.solve_rearranged`). The flat views of the two stores are renumberings of one another, so the
runs go in step; what is reported under a name is then read off corresponding values.

Read exactly, a solve always reports (`Store.exists_report`): no parameter fails to be finite.
-/

set_option autoImplicit false

namespace PlanarSketch

instance {α : Type} : Named (ConstraintReport α) := ⟨ConstraintReport.name⟩

/-- Two reports say the same: how and when the run ended, what was measured on the way, and, name by
name, what became of entities and how constraints stand. -/
structure Report.Alike (first second : Report ℝ) : Prop where
  ending : first.ending = second.ending
  iterations : first.iterations = second.iterations
  residual : first.residual = second.residual
  history : first.history = second.history
  entity : ∀ name, Ledger.find? name first.entities = Ledger.find? name second.entities
  constraint : ∀ name, Ledger.find? name first.constraints = Ledger.find? name second.constraints

theorem eq_of_rel {β : Type} {x y : Option β} (same : Option.Rel Eq x y) : x = y := by
  cases same with
  | none => rfl
  | some same => rw [same]

theorem Ledger.find?_map {β γ : Type} [Named β] [Named γ] {f : β → γ}
    (same : ∀ record, Named.name (f record) = Named.name record) (name : Text) (records : List β) :
    find? name (records.map f) = (find? name records).map f := by
  rw [find?, List.find?_map, find?]
  simp only [Function.comp_def, same]

namespace Store

/-! ## What a solve reports -/

/-- The entities of a store with the parameters that given values have at their places. -/
noncomputable def entitiesAt (store : Store ℝ) (values : Array ℝ) : List (Entity ℝ) :=
  (Entity.placed 0 store.entities).map (Entity.readAt values)

/-- How a constraint of a store stands at given values. -/
noncomputable def reportAt (store : Store ℝ) (values : Array ℝ) (constraint : Constraint ℝ) :
    ConstraintReport ℝ :=
  let residual := (Layout.boundOf (Block.ofEntities 0 store.entities) constraint).residual values
  { name := constraint.name, residual, satisfied := within residual constraint.tolerance }

/-- A constraint with a note of how it stands at given values. -/
noncomputable def notedAt (store : Store ℝ) (values : Array ℝ) (constraint : Constraint ℝ) :
    Constraint ℝ :=
  { constraint with satisfied := Json.bool (store.reportAt values constraint).satisfied }

/-- The run of a solve with the formulas known from the start that nothing tells to stop. -/
noncomputable def exactRun (store : Store ℝ) (settings : Settings ℝ) : Outcome ℝ :=
  Newton.run (Newton.problemOf (Layout.laid store) settings) (fun _ => false)
    store.parameters.toArray

/-- What a solve with a given outcome leaves and reports. -/
structure Reported (store : Store ℝ) (outcome : Outcome ℝ) (solved : Solved ℝ) (report : Report ℝ) :
    Prop where
  entities : report.entities = store.entitiesAt outcome.values
  constraints : report.constraints = store.constraints.map (store.reportAt outcome.values)
  after : solved.store = {
    entities := store.entitiesAt outcome.values
    constraints := store.constraints.map (store.notedAt outcome.values) }
  ending : report.ending = outcome.ending
  iterations : report.iterations = outcome.iterations
  residual : report.residual = outcome.residual
  history : report.history = outcome.history.toList
  deficiency : report.deficiency = outcome.deficiency

theorem constraintReports_laid (store : Store ℝ) (values : Array ℝ) :
    (store.moved values).constraintReports (Layout.laid store) values =
      store.constraints.map (store.reportAt values) := by
  rw [constraintReports, moved, Layout.laid, List.toList_toArray, List.zipWith_map_right,
    List.zipWith_self]
  rfl

/-- **Read exactly, every solve of a coherent store reports.** -/
theorem exists_report_of {store : Store ℝ} (coherent : store.Coherent) (settings : Settings ℝ)
    (formulas : Formulas ℝ) (polls : ℕ → Bool) :
    ∃ solved report, store.solve settings formulas polls = .ok solved ∧ solved.report = .ok report ∧
      store.Reported
        (Newton.run { layout := Layout.laid store, settings, formulas } polls
          store.parameters.toArray)
        solved report := by
  have laid := Layout.ofStore_of_coherent coherent
  obtain ⟨solved, done, solves⟩ := solves_of_laid laid coherent.entityNames settings formulas polls
  refine ⟨solved, ?_⟩
  have fits := fits_run { layout := Layout.laid store, settings, formulas } laid polls
  cases solves with
  | refused error failed =>
      obtain ⟨_, _, _, unbounded, _⟩ := Entity.rewritten_error failed
      simp [Entity.isFinite] at unbounded
  | reported written reports each notices =>
      obtain ⟨entities, _⟩ := Entity.rewritten_ok fits.pinned written
      rw [constraintReports_laid] at each
      refine ⟨_, done, rfl, entities, each, ?_, rfl, rfl, rfl, rfl, rfl⟩
      rw [each, noteSatisfied, moved, List.zipWith_map_right, List.zipWith_self]
      exact congrArg (Store.mk · _) entities

/-- The same with the formulas known from the start. -/
theorem exists_report {store : Store ℝ} (coherent : store.Coherent) (settings : Settings ℝ)
    (polls : ℕ → Bool) :
    ∃ solved report, store.solve settings .standard polls = .ok solved ∧
      solved.report = .ok report ∧
      store.Reported
        (Newton.run (Newton.problemOf (Layout.laid store) settings) polls store.parameters.toArray)
        solved report :=
  exists_report_of coherent settings .standard polls

/-! ## Rearranged stores -/

section Rearranged

variable {first second : Store ℝ} {slot : Equiv.Perm ℕ} {values values' : Array ℝ}

/-- Corresponding values give an entity the same parameters in both stores. -/
theorem Slotted.find?_entitiesAt (slotted : Slotted first second slot)
    (rearranged : first.Rearranged second) (coherent : first.Coherent)
    (coherent' : second.Coherent) (carried : Carried slot values values') (name : Text) :
    Ledger.find? name (first.entitiesAt values) =
      Ledger.find? name (second.entitiesAt values') := by
  have same := rearranged.mem_entities coherent coherent'
  have distinct (store : Store ℝ) (values : Array ℝ) (coherent : store.Coherent) :
      Ledger.Distinct (store.entitiesAt values) := by
    have names : Ledger.names (store.entitiesAt values) = Ledger.names store.entities := by
      refine Eq.trans ?_ (congrArg Ledger.names (Entity.map_snd_placed 0 store.entities))
      rw [Ledger.names, Ledger.names, entitiesAt, List.map_map, List.map_map]
      rfl
    rw [Ledger.Distinct, names]
    exact coherent.entityNames
  have read {place place' : ℕ × Entity ℝ} (member : place ∈ Entity.placed 0 first.entities)
      (member' : place' ∈ Entity.placed 0 second.entities) (entity : place'.2 = place.2) :
      Entity.readAt values' place' = Entity.readAt values place := by
    rw [Entity.readAt, Entity.readAt, entity,
      (slotted.moved place member place' member' entity).shape carried]
  refine Ledger.find?_congr (distinct first values coherent)
    (distinct second values' coherent') ?_ name
  intro entity
  rw [entitiesAt, entitiesAt, List.mem_map, List.mem_map]
  constructor
  · rintro ⟨place, member, rfl⟩
    obtain ⟨place', member', entity⟩ := exists_placed ((same _).mp (mem_of_placed member))
    exact ⟨place', member', read member member' entity⟩
  · rintro ⟨place', member', rfl⟩
    obtain ⟨place, member, entity⟩ := exists_placed ((same _).mpr (mem_of_placed member'))
    exact ⟨place, member, (read member member' entity.symm).symm⟩

/-- Corresponding values leave a constraint as it stands in both stores. -/
theorem Slotted.reportAt (slotted : Slotted first second slot)
    (rearranged : first.Rearranged second) (coherent : first.Coherent)
    (coherent' : second.Coherent) (carried : Carried slot values values')
    {constraint constraint' : Constraint ℝ} (member : constraint ∈ first.constraints)
    (alike : constraint.Alike constraint') :
    second.reportAt values' constraint' = first.reportAt values constraint := by
  have matching := slotted.matches rearranged coherent coherent' member alike
  have residual :
      (Layout.boundOf (Block.ofEntities 0 second.entities) constraint').residual values' =
      (Layout.boundOf (Block.ofEntities 0 first.entities) constraint).residual values := by
    rw [Bound.residual, Bound.residual, matching.residual carried]
    exact congrArg (fun target => Relation.residual target _) alike.target
  rw [Store.reportAt, Store.reportAt, residual, alike.name, alike.tolerance]

/-- Constraints of one name, if there are any, are changed alike. -/
theorem rel_map_constraints (rearranged : first.Rearranged second) {γ : Type} [Named γ]
    {related : γ → γ → Prop} {f f' : Constraint ℝ → γ}
    (named : ∀ constraint, Named.name (f constraint) = constraint.name)
    (named' : ∀ constraint, Named.name (f' constraint) = constraint.name)
    (each : ∀ constraint ∈ first.constraints, ∀ constraint' ∈ second.constraints,
      constraint.Alike constraint' → related (f constraint) (f' constraint')) (name : Text) :
    Option.Rel related (Ledger.find? name (first.constraints.map f))
      (Ledger.find? name (second.constraints.map f')) := by
  have known : Option.Rel Constraint.Alike (Ledger.find? name first.constraints)
      (Ledger.find? name second.constraints) := rearranged.constraint name
  rw [Ledger.find?_map named, Ledger.find?_map named']
  cases found : Ledger.find? name first.constraints with
  | none =>
      rw [found] at known
      cases found' : Ledger.find? name second.constraints with
      | none => exact .none
      | some constraint' =>
          rw [found'] at known
          cases known
  | some constraint =>
      rw [found] at known
      cases found' : Ledger.find? name second.constraints with
      | none =>
          rw [found'] at known
          cases known
      | some constraint' =>
          rw [found'] at known
          cases known with
          | some alike =>
              exact .some (each constraint (Ledger.mem_of_find? found).1 constraint'
                (Ledger.mem_of_find? found').1 alike)

variable {same : (Layout.laid first).Renumbering (Layout.laid second)}
  {outcome outcome' : Outcome ℝ} {solved solved' : Solved ℝ} {report report' : Report ℝ}

/-- What is reported of runs that end alike is the same. -/
theorem Reported.alike (made : first.Reported outcome solved report)
    (made' : second.Reported outcome' solved' report') (slotted : Slotted first second same.slot)
    (rearranged : first.Rearranged second) (coherent : first.Coherent) (coherent' : second.Coherent)
    (alike : Newton.Alike same outcome outcome') : report.Alike report' where
  ending := by rw [made.ending, made'.ending, alike.ending]
  iterations := by rw [made.iterations, made'.iterations, alike.iterations]
  residual := by rw [made.residual, made'.residual, alike.residual]
  history := by rw [made.history, made'.history, alike.history]
  entity := by
    rw [made.entities, made'.entities]
    exact slotted.find?_entitiesAt rearranged coherent coherent' alike.values
  constraint := by
    intro name
    rw [made.constraints, made'.constraints]
    refine eq_of_rel (rel_map_constraints rearranged (fun _ => rfl) (fun _ => rfl) ?_ name)
    intro constraint member constraint' _ exchanged
    exact (slotted.reportAt rearranged coherent coherent' alike.values member exchanged).symm

/-- Runs that end alike leave rearranged stores again. -/
theorem Reported.rearranged (made : first.Reported outcome solved report)
    (made' : second.Reported outcome' solved' report') (slotted : Slotted first second same.slot)
    (rearranged : first.Rearranged second) (coherent : first.Coherent) (coherent' : second.Coherent)
    (alike : Newton.Alike same outcome outcome') : solved.store.Rearranged solved'.store := by
  rw [made.after, made'.after]
  refine ⟨slotted.find?_entitiesAt rearranged coherent coherent' alike.values, ?_⟩
  refine rel_map_constraints rearranged (fun _ => rfl) (fun _ => rfl) ?_
  intro constraint member constraint' _ exchanged
  rw [notedAt, notedAt,
    slotted.reportAt rearranged coherent coherent' alike.values member exchanged]
  rcases exchanged with rfl | rfl
  · exact .inl rfl
  · exact .inr rfl

end Rearranged

/-! ## Two points and their distance -/

/-- What a solve reports as skipped is what its run skipped. -/
theorem deficiency_of_solve {store : Store ℝ} (coherent : store.Coherent) {settings : Settings ℝ}
    {solved : Solved ℝ} {report : Report ℝ}
    (done : store.solve settings .standard (fun _ => false) = .ok solved)
    (reports : solved.report = .ok report) :
    report.deficiency = (store.exactRun settings).deficiency := by
  obtain ⟨other, reported, done', reports', made⟩ := exists_report coherent settings fun _ => false
  cases done.symm.trans done'
  cases reports.symm.trans reports'
  exact made.deficiency

namespace Pair

/-- A fixed point in the origin. -/
noncomputable def pinned : Entity ℝ := { name := .ofString "A", shape := .point 0 0, fixed := true }

noncomputable def loose : Entity ℝ := { name := .ofString "P", shape := .point 1 0, fixed := false }

/-- The two points at a distance of `2`. -/
noncomputable def apart : Constraint ℝ :=
  { name := .ofString "D", relation := .distance (.ofString "A") (.ofString "P"), value := some 2,
    tolerance := 1 / 1000, priority := .int 1, satisfied := .bool false }

noncomputable def ordered : Store ℝ := { entities := [pinned, loose], constraints := [apart] }

/-- The same points the other way round. -/
noncomputable def reversed : Store ℝ := { entities := [loose, pinned], constraints := [apart.swap] }

noncomputable def settings : Settings ℝ :=
  { budget := 1, tolerance := 1 / 1000000, damping := 1, mode := .analytic, epsilon := 1 / 1000000,
    pivotTolerance := 1 / 1000000, deficiencyLimit := none }

/-- Either store skips nothing: the distance changes with the coordinate in which the points
differ. -/
theorem deficiency_zero {store : Store ℝ} (either : store = ordered ∨ store = reversed) :
    (store.exactRun settings).deficiency = 0 := by
  obtain ⟨sign, unit, known⟩ : ∃ sign : ℝ, sign * sign = 1 ∧
      Operand.separationPartials store.parameters.toArray ⟨.point, 0⟩ ⟨.point, 2⟩ =
        some [(0, -sign), (1, 0), (2, sign), (3, 0)] := by
    rcases either with rfl | rfl
    · refine ⟨1, one_mul 1, ?_⟩
      simp [Operand.separationPartials, Operand.shape, Shape.ofReader, ordered, parameters, pinned,
        loose, Entity.parameters, Shape.toList, Shape.anchor, Scalar.hypot_eq]
    · refine ⟨-1, by norm_num, ?_⟩
      simp [Operand.separationPartials, Operand.shape, Shape.ofReader, reversed, parameters, pinned,
        loose, Entity.parameters, Shape.toList, Shape.anchor, Scalar.hypot_eq]
  have large (slot : ℕ) (moves : slot = 0 ∨ slot = 2) : settings.pivotTolerance ≤
      Partials.at [(0, -sign), (1, 0), (2, sign), (3, 0)] slot *
        Partials.at [(0, -sign), (1, 0), (2, sign), (3, 0)] slot := by
    rcases moves with rfl | rfl <;> norm_num [Partials.at, settings, unit]
  rcases either with rfl | rfl
  all_goals
    refine Newton.deficiency_of_one rfl ?_
    exact Newton.clean_of_distance (i := (0 : Fin 1)) (c := (0 : Fin 2)) rfl (by decide +kernel) rfl
      (Layout.slotAt_laid_injective _) (by decide +kernel) (by decide +kernel) known
        (large _ (by decide +kernel))

theorem coherent_ordered : ordered.Coherent := by
  have entities := (coherent_empty.addEntity pinned).addEntity loose
  have filed :
      (({} : Store ℝ).addEntity pinned |>.addEntity loose).addConstraint apart = .ok ordered := by
    rfl
  exact entities.addConstraint filed

theorem coherent_reversed : reversed.Coherent := by
  have entities := (coherent_empty.addEntity loose).addEntity pinned
  have filed : (({} : Store ℝ).addEntity loose |>.addEntity pinned).addConstraint apart.swap =
      .ok reversed := by
    rfl
  exact entities.addConstraint filed

theorem rearranged : ordered.Rearranged reversed where
  entity :=
    Ledger.find?_congr coherent_ordered.entityNames coherent_reversed.entityNames fun entity => by
    simp [ordered, reversed, or_comm]
  constraint := by
    intro name
    have left : ordered.constraint? name = if apart.name == name then some apart else none := by
      rw [constraint?, Ledger.find?, ordered, List.find?_singleton]
      rfl
    have right :
        reversed.constraint? name = if apart.name == name then some apart.swap else none := by
      rw [constraint?, Ledger.find?, reversed, List.find?_singleton]
      rfl
    rw [left, right]
    split
    · exact .some (.inr rfl)
    · exact .none

end Pair

/-! ## The result -/

/-- **A solve does not depend on the order of records or references.** Read exactly, two stores with
the same records in any orders, solved with the same settings and without being told to stop, report
the same when neither skipped a pivot, and are left with the same records. -/
theorem solve_rearranged {first second : Store ℝ} (coherent : first.Coherent)
    (coherent' : second.Coherent) (rearranged : first.Rearranged second) (settings : Settings ℝ)
    (positive : 0 < settings.pivotTolerance) :
    ∃ solved solved' report report',
      first.solve settings .standard (fun _ => false) = .ok solved ∧ solved.report = .ok report ∧
      second.solve settings .standard (fun _ => false) = .ok solved' ∧
      solved'.report = .ok report' ∧
      (report.deficiency = 0 → report'.deficiency = 0 →
        report.Alike report' ∧ solved.store.Rearranged solved'.store) := by
  obtain ⟨solved, report, done, reports, made⟩ := exists_report coherent settings fun _ => false
  obtain ⟨solved', report', done', reports', made'⟩ :=
    exists_report coherent' settings fun _ => false
  refine ⟨solved, solved', report, report', done, reports, done', reports', ?_⟩
  intro all all'
  rw [made.deficiency] at all
  rw [made'.deficiency] at all'
  obtain ⟨slot, slotted⟩ := rearranged.exists_slotted coherent coherent'
  obtain ⟨same, rfl⟩ := slotted.exists_renumbering rearranged coherent coherent'
  have alike := Newton.run_renumbered same positive slotted.carried all all'
  exact ⟨made.alike made' slotted rearranged coherent coherent' alike,
    made.rearranged made' slotted rearranged coherent coherent' alike⟩

/-- Pulled to its distance, the loose point ends alike whichever point was filed first. -/
theorem solve_pair_rearranged :
    ∃ solved solved' report report',
      Pair.ordered.solve Pair.settings .standard (fun _ => false) = .ok solved ∧
      solved.report = .ok report ∧
      Pair.reversed.solve Pair.settings .standard (fun _ => false) = .ok solved' ∧
      solved'.report = .ok report' ∧
      report.Alike report' ∧ solved.store.Rearranged solved'.store := by
  have positive : 0 < Pair.settings.pivotTolerance := by norm_num [Pair.settings]
  obtain ⟨solved, solved', report, report', done, reports, done', reports', same⟩ :=
    solve_rearranged Pair.coherent_ordered Pair.coherent_reversed Pair.rearranged
      Pair.settings positive
  have all :=
    (deficiency_of_solve Pair.coherent_ordered done reports).trans (Pair.deficiency_zero (.inl rfl))
  have all' :=
    (deficiency_of_solve Pair.coherent_reversed done' reports').trans
      (Pair.deficiency_zero (.inr rfl))
  exact ⟨solved, solved', report, report', done, reports, done', reports', same all all'⟩

end Store

end PlanarSketch
