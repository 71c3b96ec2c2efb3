import Mathlib
import PlanarSketch.Proofs.Exact.Derivative
import PlanarSketch.Proofs.Exact.Solve
import PlanarSketch.Proofs.Exact.ZeroColumn
import PlanarSketch.Proofs.Jacobian.Dense

/-!
# Parameters that no constraint reads

A parameter that no constraint reads is an unknown like any other when its entity is not fixed. Read
exactly, with a positive pivot tolerance and the standard formulas, a solve does not move it
(`Store.solve_keeps_unread`), however the run ends and whenever it is told to stop.

Its column in the matrix of derivatives is zero in every mode (`Layout.zeroColumn_of_unread`), so no
correction moves it and a run leaves it where it started (`Newton.run_unread`). It remains to say
which parameters these are: the slots of an entity are read only by constraints that name it
(`Store.unread_of_placed`).
-/

set_option autoImplicit false

namespace PlanarSketch

/-! ## Slots -/

namespace Layout

variable {layout : Layout ℝ} {slot : ℕ}

/-- No constraint reads a slot. -/
def Unread (layout : Layout ℝ) (slot : ℕ) : Prop := ∀ i, slot ∉ (layout.boundAt i).relation.reads

/-- **The column of a slot that no constraint reads is zero.** -/
theorem zeroColumn_of_unread (distinct : Function.Injective layout.slotAt)
    {c : Fin layout.unknowns} (unread : layout.Unread (layout.slotAt c)) (mode : DerivativeMode)
    (epsilon : ℝ) (values : Array ℝ) :
    (Jacobian.build layout mode epsilon .standard values
      (some (layout.residuals values))).matrix.ZeroColumn c := by
  intro i
  have still (change : ℝ → ℝ) :
      (layout.boundAt i).residual (Jacobian.shift values (layout.slotAt c) change) =
      (layout.boundAt i).residual values := Bound.residual_shift (unread i) change
  rw [Dense.entry, get_matrix]
  cases filled : Jacobian.source mode .standard values (layout.boundAt i) with
  | blank => exact (Vector.getElem_replicate c.isLt).trans Scalar.zero_eq
  | formula partials =>
      have missing : layout.slotAt c ∉ partials.map Prod.fst :=
        fun listed => unread i (Formulas.mem_reads_of_partials
          (Jacobian.partials_of_source filled) listed)
      exact (get_partialsRow distinct partials c).trans (Partials.at_of_notMem missing)
  | differences fallback =>
      refine (Jacobian.get_differenceRow ..).trans ?_
      rw [get_residuals]
      split
      case isFalse _ => exact Scalar.zero_eq
      case isTrue _ =>
        cases mode with
        | central =>
            change Jacobian.centralQuotient epsilon values _ _ = 0
            rw [Jacobian.centralQuotient, still, still, sub_self, zero_div]
        | forward | analytic =>
            change Jacobian.forwardQuotient epsilon values _ _ _ = 0
            rw [Jacobian.forwardQuotient, still, sub_self, zero_div]

end Layout

/-! ## Runs -/

namespace Newton

variable {layout : Layout ℝ} {settings : Settings ℝ} {slot : ℕ}

/-- A correction does not move a slot that no constraint reads. -/
theorem getElem?_moved_of_unread (distinct : Function.Injective layout.slotAt)
    (positive : 0 < settings.pivotTolerance) (unread : layout.Unread slot) {values : Array ℝ}
    {correction : Correction layout.unknowns ℝ}
    (solved : correctionAt (problemOf layout settings) values = .ok correction) :
    (moved (problemOf layout settings) values correction)[slot]? = values[slot]? := by
  rw [moved, Layout.advance, Array.getElem?_mapIdx]
  cases known : layout.columnOf slot with
  | none => simp
  | some column =>
      obtain rfl := (Layout.columnOf_eq_some_iff distinct).mp known
      have still := Correction.get_delta_of_zeroColumn positive
        (Layout.zeroColumn_of_unread distinct unread settings.mode settings.epsilon values) solved
      simp [still]

/-- **A run leaves a slot that no constraint reads where it started.** -/
theorem run_unread (distinct : Function.Injective layout.slotAt)
    (positive : 0 < settings.pivotTolerance) (unread : layout.Unread slot) (polls : ℕ → Bool)
    (values : Array ℝ) :
    (run (problemOf layout settings) polls values).values[slot]? = values[slot]? :=
  run_values_induction _ polls values (fun other => other[slot]? = values[slot]?) rfl
    fun _ _ solved same => (getElem?_moved_of_unread distinct positive unread solved).trans same

end Newton

/-! ## Entities -/

namespace Store

/-- A constraint of the store reads a parameter of an entity. -/
def Reads (store : Store ℝ) (entity : Entity ℝ) (k : ℕ) : Prop :=
  ∃ constraint ∈ store.constraints,
    entity.name ∈ constraint.relation.refs ∧ k ∈ entity.kind.read constraint.kind

variable {store : Store ℝ}

/-- A slot is read only by constraints that read the parameter of the entity that it belongs to. -/
theorem unread_of_placed (coherent : store.Coherent) {place : ℕ × Entity ℝ}
    (member : place ∈ Entity.placed 0 store.entities) {k : ℕ} (small : k < place.2.arity)
    (unread : ¬ store.Reads place.2 k) : (Layout.laid store).Unread (place.1 + k) := by
  intro i read
  obtain ⟨constraint, here, same⟩ := Layout.getElem?_constraints store i
  have listed : constraint ∈ store.constraints := List.mem_of_getElem? here
  rw [same, Layout.boundOf, Relation.reads, Relation.refs_map, Relation.kind_map] at read
  obtain ⟨operand, named, own⟩ := List.mem_flatMap.mp read
  obtain ⟨name, referred, rfl⟩ := List.mem_map.mp named
  obtain ⟨entity, present, rfl⟩ :=
    List.mem_map.mp (coherent.references constraint listed name referred)
  obtain ⟨other, placed, rfl⟩ := exists_placed present
  rw [show Named.name other.2 = other.2.name from rfl,
    Layout.operandOf_of_placed coherent placed] at own
  have shared : place.1 + k ∈ (Entity.block other).slots := Operand.mem_slots_of_mem_read own
  have mine : place.1 + k ∈ (Entity.block place).slots := by
    rw [Block.slots, List.mem_range'_1]
    exact ⟨Nat.le_add_right _ _, Nat.add_lt_add_left small _⟩
  obtain rfl := Entity.eq_of_shared_slot placed member shared mine
  obtain ⟨index, known, equal⟩ := List.mem_map.mp own
  obtain rfl : index = k := Nat.add_left_cancel equal
  exact unread ⟨constraint, listed, referred, known⟩

end Store

/-- What a solve leaves alone of an entity: every parameter that no constraint reads. That is all of
one that no constraint refers to, the radius of a circle, the radius and the angles of an arc, all
of what is not a line and is referred to for its direction only, and the end of a line that is
referred to for its anchor only. -/
structure Entity.Kept (store : Store ℝ) (before after : Entity ℝ) : Prop where
  name : after.name = before.name
  fixed : after.fixed = before.fixed
  kind : after.kind = before.kind
  unread : ∀ k, ¬ store.Reads before k → after.parameters[k]? = before.parameters[k]?
  unreferenced :
    (∀ constraint ∈ store.constraints, before.name ∉ constraint.relation.refs) → after = before
  circle : ∀ x y radius, before.shape = .circle x y radius →
    ∃ x' y', after.shape = .circle x' y' radius
  arc : ∀ x y radius start stop, before.shape = .arc x y radius start stop →
    ∃ x' y', after.shape = .arc x' y' radius start stop
  directional : before.kind ≠ .line →
    (∀ constraint ∈ store.constraints, before.name ∈ constraint.relation.refs →
      constraint.kind.isDirectional = true) → after = before
  located : ∀ x₁ y₁ x₂ y₂, before.shape = .line x₁ y₁ x₂ y₂ →
    (∀ constraint ∈ store.constraints, before.name ∈ constraint.relation.refs →
      constraint.kind = .distance ∨ constraint.kind = .coincident) →
    ∃ x y, after.shape = .line x y x₂ y₂

namespace Shape

variable {α : Type} {first second : Shape α}

/-- Shapes of one kind with the same parameters are the same. -/
theorem eq_of_toList (kind : first.kind = second.kind) (same : first.toList = second.toList) :
    first = second := by
  have again := ofList?_toList first
  rw [kind, same, ofList?_toList] at again
  exact (Option.some.inj again).symm

/-- A shape with its anchor somewhere else, and all else as it is. -/
def withAnchor (x y : α) : Shape α → Shape α
  | point _ _ => point x y
  | line _ _ x₂ y₂ => line x y x₂ y₂
  | circle _ _ radius => circle x y radius
  | arc _ _ radius start stop => arc x y radius start stop

/-- Shapes of one kind with the same parameters beyond the anchor differ in the anchor only. -/
theorem exists_withAnchor (kind : first.kind = second.kind)
    (beyond : ∀ k, 2 ≤ k → first.toList[k]? = second.toList[k]?) :
    ∃ x y, first = second.withAnchor x y := by
  refine ⟨first.anchor.1, first.anchor.2, eq_of_toList ?_ (List.ext_getElem? fun k => ?_)⟩
  · rw [kind]
    cases second <;> rfl
  · match k with
    | 0 | 1 => cases first <;> cases second <;> cases kind <;> rfl
    | k + 2 =>
        rw [beyond (k + 2) (Nat.le_add_left 2 k)]
        cases second <;> rfl

end Shape

namespace Entity

variable {store : Store ℝ} {before after : Entity ℝ}

/-- What is known of single parameters is known of entities. -/
theorem kept_of_unread (name : after.name = before.name) (fixed : after.fixed = before.fixed)
    (kind : after.kind = before.kind)
    (unread : ∀ k, ¬ store.Reads before k → after.parameters[k]? = before.parameters[k]?) :
    Kept store before after := by
  have whole (nowhere : ∀ k, ¬ store.Reads before k) : after = before := by
    have shape : after.shape = before.shape :=
      Shape.eq_of_toList kind (List.ext_getElem? fun k => unread k (nowhere k))
    obtain ⟨_, _, _⟩ := before
    obtain ⟨_, _, _⟩ := after
    cases name
    cases fixed
    cases shape
    rfl
  have moved (anchored : before.kind ≠ .line ∨ ∀ constraint ∈ store.constraints,
      before.name ∈ constraint.relation.refs → constraint.kind.isDirectional = false) :
      ∃ x y, after.shape = before.shape.withAnchor x y := by
    refine Shape.exists_withAnchor kind fun k beyond =>
      unread k fun ⟨constraint, listed, referred, known⟩ => ?_
    have early := ShapeKind.lt_two_of_mem_read
      (anchored.imp_right fun all => all constraint listed referred) known
    omega
  refine ⟨name, fixed, kind, unread, ?_, ?_, ?_, ?_, ?_⟩
  · intro none
    exact whole fun k ⟨constraint, listed, referred, _⟩ => none constraint listed referred
  · intro x y radius shape
    have bent : before.kind ≠ .line := by simp [Entity.kind, shape, Shape.kind]
    obtain ⟨x', y', same⟩ := moved (.inl bent)
    exact ⟨x', y', by rw [same, shape, Shape.withAnchor]⟩
  · intro x y radius start stop shape
    have bent : before.kind ≠ .line := by simp [Entity.kind, shape, Shape.kind]
    obtain ⟨x', y', same⟩ := moved (.inl bent)
    exact ⟨x', y', by rw [same, shape, Shape.withAnchor]⟩
  · intro flat directional
    refine whole fun k ⟨constraint, listed, referred, known⟩ => ?_
    rw [ShapeKind.read_of_directional (directional constraint listed referred) flat] at known
    cases known
  · intro x₁ y₁ x₂ y₂ shape located
    have anchored : ∀ constraint ∈ store.constraints, before.name ∈ constraint.relation.refs →
        constraint.kind.isDirectional = false := by
      intro constraint listed referred
      rcases located constraint listed referred with same | same <;> rw [same] <;> rfl
    obtain ⟨x, y, same⟩ := moved (.inr anchored)
    exact ⟨x, y, by rw [same, shape, Shape.withAnchor]⟩

end Entity

namespace Store

variable {store : Store ℝ}

/-- **A solve never moves what no constraint reads.** Read exactly, with a positive pivot tolerance
and the standard formulas, a solve of a coherent store reports, whenever it is told to stop, and
keeps of every entity all parameters that no constraint reads. -/
theorem solve_keeps_unread (coherent : store.Coherent) {settings : Settings ℝ}
    (positive : 0 < settings.pivotTolerance) (polls : ℕ → Bool) :
    ∃ solved report, store.solve settings .standard polls = .ok solved ∧
      solved.report = .ok report ∧
      List.Forall₂ (Entity.Kept store) store.entities solved.store.entities := by
  obtain ⟨solved, report, done, reports, made⟩ := exists_report coherent settings polls
  refine ⟨solved, report, done, reports, ?_⟩
  have distinct := Layout.slotAt_laid_injective store
  set values := (Newton.run (Newton.problemOf (Layout.laid store) settings) polls
    store.parameters.toArray).values with left
  have each :
      ∀ place ∈ Entity.placed 0 store.entities,
        Entity.Kept store place.2 (Entity.readAt values place) := by
    intro place member
    refine Entity.kept_of_unread rfl rfl (Entity.kind_readAt values place) fun k unread => ?_
    have own : Entity.readAt store.parameters.toArray place = place.2 :=
      Entity.readAt_own rfl member
    rw [← congrArg Entity.parameters own, Entity.parameters_readAt_eq, Entity.parameters_readAt_eq]
    by_cases small : k < place.2.arity
    · have same :=
        Newton.run_unread distinct positive (unread_of_placed coherent member small unread) polls
        store.parameters.toArray
      simp [small, Array.getD_eq_getD_getElem?, left, same]
    · simp [small]
  have places : List.Forall₂ (Entity.Kept store) ((Entity.placed 0 store.entities).map Prod.snd)
      (store.entitiesAt values) :=
    List.forall₂_map_left_iff.mpr (List.forall₂_map_right_iff.mpr (List.forall₂_same.mpr each))
  rw [Entity.map_snd_placed] at places
  rwa [made.after]

namespace Wheel

noncomputable def rim : Entity ℝ :=
  { name := .ofString "C", shape := .circle 1 0 7, fixed := false }

/-- A rim whose centre is to have a distance of `2` from a fixed hub in the origin. -/
noncomputable def assembled : Store ℝ :=
  { entities := [Pair.pinned, rim]
    constraints := [{ Pair.apart with relation := .distance (.ofString "A") (.ofString "C") }] }

theorem coherent_assembled : assembled.Coherent := by
  have entities := (coherent_empty.addEntity Pair.pinned).addEntity rim
  have filed : (({} : Store ℝ).addEntity Pair.pinned |>.addEntity rim).addConstraint
      { Pair.apart with relation := .distance (.ofString "A") (.ofString "C") } =
        .ok assembled := by
    rfl
  exact entities.addConstraint filed

end Wheel

/-- Pulled to its distance from the hub, a circle keeps its radius. -/
theorem solve_keeps_rim : 0 < Pair.settings.pivotTolerance ∧
    ∃ solved hub x y, Wheel.assembled.solve Pair.settings .standard (fun _ => false) = .ok solved ∧
      solved.store.entities = [hub, { Wheel.rim with shape := .circle x y 7 }] := by
  have positive : 0 < Pair.settings.pivotTolerance := by norm_num [Pair.settings]
  obtain ⟨solved, _, done, _, kept⟩ :=
    solve_keeps_unread Wheel.coherent_assembled positive fun _ => false
  have kept :
      List.Forall₂ (Entity.Kept Wheel.assembled) [Pair.pinned, Wheel.rim] solved.store.entities :=
    kept
  refine ⟨positive, solved, ?_⟩
  generalize solved.store.entities = after at kept
  cases kept with
  | @cons _ hub _ _ _ others =>
      cases others with
      | @cons _ rim _ _ turned none =>
          cases none
          obtain ⟨x, y, shape⟩ := turned.circle 1 0 7 rfl
          refine ⟨hub, x, y, done, ?_⟩
          obtain ⟨_, _, _⟩ := rim
          cases turned.name
          cases turned.fixed
          cases shape
          rfl

end Store

end PlanarSketch
