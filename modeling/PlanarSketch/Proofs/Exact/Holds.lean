import Mathlib
import PlanarSketch.Proofs.Exact.Derivative
import PlanarSketch.Proofs.Layout.Named

/-!
# Relations that hold

Over the real numbers it can be said what a relation between entities means, with the distances,
scalar products and angles of the plane and without directions of length one (`Relation.Holds`).

Pairs of coordinates are vectors of the plane (`vector`); lengths, scalar products and angles are
then those of the plane, since the quotient in `Relation.angleBetween` always is a cosine
(`Relation.angleBetween_eq`). The direction of an entity is its extent, brought to length one if it
is not zero (`Entity.vector_direction`), and that is as good as the extent for each question about
being zero, and for angles.

So the measure of a relation is zero just when the relation holds (`Relation.measure_eq_zero_iff`),
and measures made of directions only are at most one in absolute value
(`Relation.abs_measure_le_one`).
-/

set_option autoImplicit false

namespace PlanarSketch

/-! ## The plane -/

/-- A pair of coordinates as a vector of the plane. -/
def vector (pair : ℝ × ℝ) : EuclideanSpace ℝ (Fin 2) := WithLp.toLp _ ![pair.1, pair.2]

theorem norm_vector (pair : ℝ × ℝ) : ‖vector pair‖ = Scalar.hypot pair.1 pair.2 := by
  simp [vector, EuclideanSpace.norm_eq, Scalar.hypot_eq, Fin.sum_univ_two, pow_two]

theorem inner_vector (a b : ℝ × ℝ) : inner ℝ (vector a) (vector b) = Relation.dot a b := by
  simp [vector, PiLp.inner_apply, Relation.dot, Fin.sum_univ_two, mul_comm]

theorem dotProduct_vector (a b : ℝ × ℝ) :
    dotProduct (vector a).ofLp (vector b).ofLp = Relation.dot a b := by
  simp [vector, Relation.dot]

theorem dist_vector (a b : ℝ × ℝ) : dist (vector a) (vector b) = Relation.separation a b := by
  simp [vector, EuclideanSpace.dist_eq, Real.dist_eq, Relation.separation, Scalar.hypot_eq,
    Fin.sum_univ_two, pow_two]

/-- The cross product of two vectors of the plane. -/
def crossProduct (a b : EuclideanSpace ℝ (Fin 2)) : ℝ := a 0 * b 1 - a 1 * b 0

theorem crossProduct_smul (r s : ℝ) (a b : EuclideanSpace ℝ (Fin 2)) :
    crossProduct (r • a) (s • b) = r * s * crossProduct a b := by
  simp only [crossProduct, PiLp.smul_apply, smul_eq_mul]
  ring

/-- The cross product and the scalar product are the legs of a right triangle. -/
theorem crossProduct_sq_add_inner_sq (a b : EuclideanSpace ℝ (Fin 2)) :
    crossProduct a b ^ 2 + inner ℝ a b ^ 2 = (‖a‖ * ‖b‖) ^ 2 := by
  rw [mul_pow, ← real_inner_self_eq_norm_sq, ← real_inner_self_eq_norm_sq]
  simp only [crossProduct, PiLp.inner_apply, Fin.sum_univ_two, RCLike.inner_apply, conj_trivial]
  ring

theorem abs_crossProduct_le (a b : EuclideanSpace ℝ (Fin 2)) : |crossProduct a b| ≤ ‖a‖ * ‖b‖ := by
  refine abs_le_of_sq_le_sq ?_ (by positivity)
  rw [← crossProduct_sq_add_inner_sq a b]
  exact le_add_of_nonneg_right (sq_nonneg _)

/-- The angle of a number that is a cosine is found without bringing it into bounds. -/
theorem Relation.angleOfCosine_eq {cosine : ℝ} (bounded : |cosine| ≤ 1) :
    angleOfCosine cosine = Real.arccos cosine := by
  obtain ⟨below, above⟩ := abs_le.mp bounded
  rw [angleOfCosine, Scalar.atMost_eq, Scalar.atLeast_eq, Scalar.one_eq, min_eq_right above,
    max_eq_right below]
  rfl

/-- **The angle is measured as in the plane.** -/
theorem Relation.angleBetween_eq (a b : ℝ × ℝ) :
    angleBetween a b = InnerProductGeometry.angle (vector a) (vector b) := by
  rw [angleBetween, ← norm_vector, ← norm_vector, InnerProductGeometry.angle, inner_vector]
  split
  case isTrue degenerate =>
    -- A quotient by zero is zero, and so is the cosine of a right angle.
    rw [(Scalar.isZero_iff _).mp degenerate, div_zero, Real.arccos_zero]
    exact congrArg (Real.pi / ·) Nat.cast_two
  case isFalse _ =>
    refine angleOfCosine_eq ?_
    rw [← inner_vector]
    exact abs_real_inner_div_norm_mul_norm_le_one _ _

/-! ## Entities -/

namespace Entity

/-- Where an entity is: the point that distances are taken from. -/
def location (entity : Entity ℝ) : EuclideanSpace ℝ (Fin 2) := vector entity.point

/-- From the start of a line to its end. What is not a line extends along the first axis. -/
def extent (entity : Entity ℝ) : EuclideanSpace ℝ (Fin 2) :=
  match entity.shape with
  | .line x₁ y₁ x₂ y₂ => vector (x₂ - x₁, y₂ - y₁)
  | _ => vector (1, 0)

/-- **The direction is the extent, brought to length one if it is not zero.** -/
theorem vector_direction (entity : Entity ℝ) :
    vector entity.direction = NormedSpace.normalize entity.extent := by
  obtain ⟨_, shape, _⟩ := entity
  cases shape with
  | line x₁ y₁ x₂ y₂ =>
      ext k
      rw [direction, Shape.direction, Shape.unit_eq, extent, NormedSpace.normalize, norm_vector]
      fin_cases k <;> simp [vector, div_eq_inv_mul]
  | point | circle | arc =>
      have long : ‖vector (1, 0)‖ = 1 := by simp [norm_vector, Scalar.hypot_eq]
      rw [extent, NormedSpace.normalize_eq_self_of_norm_eq_one long, ← Scalar.one_eq,
        ← Scalar.zero_eq]
      rfl

/-- Up to a positive factor, the extent is the direction. -/
theorem exists_extent_eq (entity : Entity ℝ) :
    ∃ length : ℝ, 0 < length ∧ entity.extent = length • vector entity.direction := by
  rw [vector_direction]
  by_cases degenerate : entity.extent = 0
  · exact ⟨1, one_pos, by rw [degenerate, NormedSpace.normalize_zero_eq_zero, smul_zero]⟩
  · exact ⟨‖entity.extent‖, norm_pos_iff.mpr degenerate, (NormedSpace.norm_smul_normalize _).symm⟩

theorem norm_direction_le (entity : Entity ℝ) : ‖vector entity.direction‖ ≤ 1 := by
  rw [vector_direction, ← mem_closedBall_zero_iff]
  exact inv_norm_smul_mem_unitClosedBall entity.extent

end Entity

/-! ## Relations -/

/-- What a relation between entities says, with a value for distances and, in degrees, for
angles. -/
def Relation.Holds (value : ℝ) : Relation (Entity ℝ) → Prop
  | distance a b => dist a.location b.location = value
  | angle a b => InnerProductGeometry.angle a.extent b.extent = value * (Real.pi / 180)
  | parallel a b => crossProduct a.extent b.extent = 0
  | perpendicular a b => dotProduct a.extent.ofLp b.extent.ofLp = 0
  | coincident a b => a.location = b.location
  | horizontal a => a.extent 1 = 0
  | vertical a => a.extent 0 = 0

namespace Relation

/-- Angles are measured between the extents. -/
theorem measure_angle (value : ℝ) (a b : Entity ℝ) : (angle a b).measure value =
    InnerProductGeometry.angle a.extent b.extent - value * (Real.pi / 180) := by
  obtain ⟨r, long, first⟩ := a.exists_extent_eq
  obtain ⟨s, long', second⟩ := b.exists_extent_eq
  rw [measure, angleBetween_eq, first, second, InnerProductGeometry.angle_smul_left_of_pos _ _ long,
    InnerProductGeometry.angle_smul_right_of_pos _ _ long']
  rfl

variable (value : ℝ) (relation : Relation (Entity ℝ))

/-- **A relation holds just when its measure is zero.** -/
theorem measure_eq_zero_iff : relation.measure value = 0 ↔ relation.Holds value := by
  cases relation with
  | distance a b =>
      rw [measure, sub_eq_zero, ← dist_vector]
      rfl
  | angle a b => rw [measure_angle, sub_eq_zero, Holds]
  | parallel a b =>
      obtain ⟨r, long, first⟩ := a.exists_extent_eq
      obtain ⟨s, long', second⟩ := b.exists_extent_eq
      rw [measure, Scalar.abs_eq, abs_eq_zero, Holds, first, second, crossProduct_smul,
        mul_eq_zero_iff_left (mul_pos long long').ne']
      rfl
  | perpendicular a b =>
      obtain ⟨r, long, first⟩ := a.exists_extent_eq
      obtain ⟨s, long', second⟩ := b.exists_extent_eq
      rw [measure, Holds, first, second, ← dotProduct_vector, WithLp.ofLp_smul, WithLp.ofLp_smul,
        smul_dotProduct, dotProduct_smul, smul_eq_zero_iff_right long.ne',
        smul_eq_zero_iff_right long'.ne']
  | coincident a b =>
      rw [measure, ← dist_vector, dist_eq_zero]
      rfl
  | horizontal a | vertical a =>
      obtain ⟨r, long, only⟩ := a.exists_extent_eq
      rw [measure, Holds, only, PiLp.smul_apply, smul_eq_mul, mul_eq_zero_iff_left long.ne']
      rfl

theorem measure_nonneg (unsigned : relation.kind = .parallel ∨ relation.kind = .coincident) :
    0 ≤ relation.measure value := by
  cases relation with
  | parallel a b => exact abs_nonneg _
  | coincident a b => exact Real.sqrt_nonneg _
  | distance | angle | perpendicular | horizontal | vertical => simp [kind] at unsigned

/-- Directions are no longer than one, and neither are their products. -/
theorem abs_measure_le_one
    (directional : relation.kind ∈ [.parallel, .perpendicular, .horizontal, .vertical]) :
    |relation.measure value| ≤ 1 := by
  cases relation with
  | parallel a b =>
      rw [measure, Scalar.abs_eq, abs_abs]
      exact (abs_crossProduct_le (vector a.direction) (vector b.direction)).trans
        (mul_le_one₀ a.norm_direction_le (norm_nonneg _) b.norm_direction_le)
  | perpendicular a b =>
      rw [measure, ← inner_vector]
      exact (abs_real_inner_le_norm _ _).trans
        (mul_le_one₀ a.norm_direction_le (norm_nonneg _) b.norm_direction_le)
  | horizontal a => exact (PiLp.norm_apply_le (vector a.direction) 1).trans a.norm_direction_le
  | vertical a => exact (PiLp.norm_apply_le (vector a.direction) 0).trans a.norm_direction_le
  | distance | angle | coincident => simp [kind] at directional

end Relation

/-! ## Stores -/

/-- **A residual of zero means that the relation holds.** Over the real numbers, a constraint whose
names are all known has a residual, which is zero just when the relation holds between the entities
of these names. The residuals of parallel and coincident entities are never negative, and those made
of directions only lie between `-1` and `1`. An angle is measured between `0` and `π`, and a line
without length makes a right angle with everything. -/
theorem Store.evaluate_eq_zero_iff_holds {store : Store ℝ} {constraint : Constraint ℝ}
    (known : ∀ name ∈ constraint.relation.refs, store.hasEntity name = true) :
    ∃ entities residual, constraint.relation.resolve store.named = .ok entities ∧
      store.evaluate constraint = .ok residual ∧
      (residual = 0 ↔ entities.Holds (constraint.value.getD 0)) ∧
      (constraint.kind = .parallel ∨ constraint.kind = .coincident → 0 ≤ residual) ∧
      (constraint.kind ∈ [.parallel, .perpendicular, .horizontal, .vertical] →
        residual ∈ Set.Icc (-1) 1) ∧
      ∀ a b, entities = .angle a b → ∃ angle ∈ Set.Icc 0 Real.pi,
        residual = angle - constraint.value.getD 0 * (Real.pi / 180) ∧
        angle = InnerProductGeometry.angle a.extent b.extent ∧
        (a.extent = 0 ∨ b.extent = 0 → angle = Real.pi / 2) := by
  obtain ⟨entities, resolved, evaluated⟩ := evaluate_of_known known
  rw [Scalar.zero_eq] at evaluated
  have kind : constraint.kind = entities.kind := (Relation.kind_of_resolve resolved).symm
  refine ⟨entities, _, resolved, evaluated, entities.measure_eq_zero_iff _, ?_, ?_, ?_⟩
  · intro unsigned
    exact entities.measure_nonneg _ (kind ▸ unsigned)
  · intro directional
    exact abs_le.mp (entities.abs_measure_le_one _ (kind ▸ directional))
  · rintro a b rfl
    refine ⟨_, ⟨InnerProductGeometry.angle_nonneg _ _, InnerProductGeometry.angle_le_pi _ _⟩,
      Relation.measure_angle _ a b, rfl, ?_⟩
    rintro (degenerate | degenerate)
    · rw [degenerate, InnerProductGeometry.angle_zero_left]
    · rw [degenerate, InnerProductGeometry.angle_zero_right]

namespace Corner

noncomputable def slanted : Entity ℝ :=
  { name := .ofString "L", shape := .line 0 0 3 4, fixed := false }

/-- A line whose ends coincide. -/
noncomputable def collapsed : Entity ℝ :=
  { name := .ofString "N", shape := .line 1 1 1 1, fixed := false }

noncomputable def square : Constraint ℝ :=
  { name := .ofString "R", relation := .angle (.ofString "L") (.ofString "N"), value := some 90,
    tolerance := 1, priority := .int 1, satisfied := .bool false }

noncomputable def store : Store ℝ := { entities := [slanted, collapsed], constraints := [square] }

end Corner

/-- A line without length is at a right angle to a slanted one. -/
theorem Store.evaluate_square :
    (∀ name ∈ Corner.square.relation.refs, Corner.store.hasEntity name = true) ∧
    Corner.store.evaluate Corner.square = .ok 0 := by
  have known : ∀ name ∈ Corner.square.relation.refs, Corner.store.hasEntity name = true :=
    List.forall_mem_cons.mpr ⟨rfl, List.forall_mem_singleton.mpr rfl⟩
  obtain ⟨entities, residual, resolved, evaluated, zero, _⟩ := evaluate_eq_zero_iff_holds known
  have found : Corner.square.relation.resolve Corner.store.named =
      .ok (.angle Corner.slanted Corner.collapsed) := rfl
  cases resolved.symm.trans found
  have degenerate : Corner.collapsed.extent = 0 := by
    ext k
    fin_cases k <;> exact sub_self (1 : ℝ)
  have holds : residual = 0 := by
    rw [zero, Relation.Holds, degenerate, InnerProductGeometry.angle_zero_right]
    change Real.pi / 2 = 90 * (Real.pi / 180)
    ring
  exact ⟨known, holds ▸ evaluated⟩

end PlanarSketch
