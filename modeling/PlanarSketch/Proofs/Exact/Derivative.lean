import Mathlib
import PlanarSketch.Proofs.Exact.Matching

/-!
# The formulas are the derivatives

Values can change with a parameter, each with its own velocity (`HasVelocity`). Read exactly, the
formulas say how fast a residual then changes: where there are partial derivatives, the residual has
a derivative, and it is the sum of the partial derivatives listed, each times the velocity of its
slot (`HasVelocity.residual`).

The proof follows the formulas. Anchors are two of the values. The direction of a line is a quotient
by its length (`hasDerivAt_unit`), and what is not a line has a direction that does not change. The
relations are measured by the length of a difference, by components, by products, and by the
absolute value of a cross product that is not zero.

A single slot that moves with velocity one gives the partial derivative of that slot
(`Formulas.hasDerivAt_residual`).
-/

set_option autoImplicit false

namespace PlanarSketch

/-! ## Lengths and directions -/

section Length

variable {f g : ℝ → ℝ} {f' g' t : ℝ}

theorem hasDerivAt_hypot (first : HasDerivAt f f' t) (second : HasDerivAt g g' t)
    (apart : Scalar.hypot (f t) (g t) ≠ 0) :
    HasDerivAt (fun x => Scalar.hypot (f x) (g x))
      (f t / Scalar.hypot (f t) (g t) * f' + g t / Scalar.hypot (f t) (g t) * g') t := by
  have inside : f t * f t + g t * g t ≠ 0 := by
    intro zero
    rw [Scalar.hypot_eq, zero, Real.sqrt_zero] at apart
    exact apart rfl
  refine (((first.mul first).add (second.mul second)).sqrt inside).congr_deriv ?_
  rw [Scalar.hypot_eq]
  simp only [Pi.add_apply, Pi.mul_apply]
  ring

/-- Where the length is zero, so are the quotients by it. -/
theorem Shape.unit_eq (dx dy : ℝ) :
    unit dx dy = (dx / Scalar.hypot dx dy, dy / Scalar.hypot dx dy) := by
  rw [unit]
  split
  case isTrue zero => rw [(Scalar.isZero_iff _).mp zero, div_zero, div_zero, Scalar.zero_eq]
  case isFalse _ => rfl

/-- How a direction turns: only the part of the velocity across it counts. -/
theorem hasDerivAt_unit {length ux uy : ℝ} (first : HasDerivAt f f' t) (second : HasDerivAt g g' t)
    (long : Scalar.hypot (f t) (g t) = length) (apart : length ≠ 0) (along : f t / length = ux)
    (across : g t / length = uy) :
    HasDerivAt (fun x => (Shape.unit (f x) (g x)).1)
      (uy * uy / length * f' + -ux * uy / length * g') t ∧
      HasDerivAt (fun x => (Shape.unit (f x) (g x)).2)
        (-ux * uy / length * f' + ux * ux / length * g') t := by
  subst long along across
  have length := hasDerivAt_hypot first second apart
  have square : Scalar.hypot (f t) (g t) ^ 2 = f t * f t + g t * g t :=
    Real.sq_sqrt (add_nonneg (mul_self_nonneg _) (mul_self_nonneg _))
  simp only [Shape.unit_eq]
  constructor
  · refine (first.div length apart).congr_deriv ?_
    field_simp
    linear_combination f' * square
  · refine (second.div length apart).congr_deriv ?_
    field_simp
    linear_combination g' * square

/-- An absolute value that is not zero changes as the number does, up to the sign. -/
theorem hasDerivAt_abs_of_ne (first : HasDerivAt f f' t) (nonzero : f t ≠ 0) :
    HasDerivAt (fun x => |f x|)
      ((if Scalar.lt Scalar.zero (f t) then Scalar.one else -Scalar.one) * f') t := by
  rcases nonzero.lt_or_gt with negative | positive
  · refine ((hasDerivAt_abs_neg negative).comp t first).congr_deriv ?_
    rw [if_neg (by simpa using negative.le), Scalar.one_eq]
  · refine ((hasDerivAt_abs_pos positive).comp t first).congr_deriv ?_
    rw [if_pos (by simpa using positive), Scalar.one_eq]

end Length

/-! ## Partial derivatives listed by slot -/

namespace Partials

/-- What partial derivatives give for slots that move with given velocities. -/
def along (velocity : ℕ → ℝ) (partials : Partials ℝ) : ℝ :=
  (partials.map fun known => known.2 * velocity known.1).sum

variable {velocity : ℕ → ℝ}

@[simp] theorem along_nil : along velocity [] = 0 := rfl

@[simp] theorem along_cons (known : ℕ × ℝ) (rest : Partials ℝ) :
    along velocity (known :: rest) = known.2 * velocity known.1 + along velocity rest := by
  rw [along, List.map_cons, List.sum_cons]
  rfl

theorem along_append (first second : Partials ℝ) :
    along velocity (first ++ second) = along velocity first + along velocity second := by
  rw [along, List.map_append, List.sum_append]
  rfl

/-- What is listed for a combination of components is the combination of what is listed for each. -/
theorem along_combine (c d : ℝ) (partials : List (DirectionPartial ℝ)) :
    along velocity (partials.map fun p => (p.slot, c * p.dx + d * p.dy)) =
      c * along velocity (partials.map fun p => (p.slot, p.dx)) +
        d * along velocity (partials.map fun p => (p.slot, p.dy)) := by
  induction partials with
  | nil => simp
  | cons p rest ih =>
      simp only [List.map_cons, along_cons, ih]
      ring

/-- A single slot that moves picks out what is listed for it. -/
theorem along_single (slot : ℕ) (partials : Partials ℝ) :
    along (Pi.single slot 1) partials = Partials.at partials slot := by
  induction partials with
  | nil => rfl
  | cons known rest ih =>
      rw [along_cons, ih, at_cons]
      by_cases here : known.1 = slot
      · rw [here, Pi.single_eq_same, mul_one, if_pos rfl]
      · rw [Pi.single_eq_of_ne here, mul_zero, if_neg here]

theorem at_of_notMem {slot : ℕ} {partials : Partials ℝ} (missing : slot ∉ partials.map Prod.fst) :
    Partials.at partials slot = 0 := by
  rw [Partials.at, List.filter_eq_nil_iff.mpr]
  · rfl
  · intro known listed here
    exact missing (List.mem_map.mpr ⟨known, listed, by simpa using here⟩)

end Partials

/-! ## Values that move -/

/-- Values that change with a parameter, each slot with its own velocity. -/
def HasVelocity (path : ℝ → Array ℝ) (velocity : ℕ → ℝ) (t : ℝ) : Prop :=
  ∀ slot, HasDerivAt (fun x => (path x).getD slot Scalar.zero) (velocity slot) t

namespace HasVelocity

variable {path : ℝ → Array ℝ} {velocity : ℕ → ℝ} {t : ℝ} {a b : Operand}

theorem anchor (moving : HasVelocity path velocity t) (a : Operand) :
    HasDerivAt (fun x => (a.shape (path x)).anchor.1) (velocity a.offset) t ∧
      HasDerivAt (fun x => (a.shape (path x)).anchor.2) (velocity (a.offset + 1)) t := by
  obtain ⟨kind, offset⟩ := a
  cases kind <;> exact ⟨moving offset, moving (offset + 1)⟩

/-- The jet of a direction is the direction with its derivative. -/
theorem direction (moving : HasVelocity path velocity t) {jet : DirectionJet ℝ}
    (found : a.directionJet (path t) = some jet) :
    (a.shape (path t)).direction = jet.direction ∧
      HasDerivAt (fun x => (a.shape (path x)).direction.1)
        (Partials.along velocity (jet.partials.map fun p => (p.slot, p.dx))) t ∧
      HasDerivAt (fun x => (a.shape (path x)).direction.2)
        (Partials.along velocity (jet.partials.map fun p => (p.slot, p.dy))) t := by
  obtain ⟨kind, offset⟩ := a
  cases kind with
  | line =>
      have dx : HasDerivAt
          (fun x => (path x).getD (offset + 2) Scalar.zero - (path x).getD offset Scalar.zero)
          (velocity (offset + 2) - velocity offset) t := (moving _).sub (moving _)
      have dy : HasDerivAt
          (fun x => (path x).getD (offset + 3) Scalar.zero - (path x).getD (offset + 1) Scalar.zero)
          (velocity (offset + 3) - velocity (offset + 1)) t := (moving _).sub (moving _)
      simp only [Operand.directionJet, Operand.shape, Shape.ofReader, Nat.add_zero] at found
      split at found
      case isTrue _ => cases found
      case isFalse long =>
        obtain ⟨turnX, turnY⟩ :=
          hasDerivAt_unit dx dy rfl (mt (Scalar.isZero_iff _).mpr long) rfl rfl
        cases found
        refine ⟨Shape.unit_eq _ _, turnX.congr_deriv ?_, turnY.congr_deriv ?_⟩
        · simp only [List.map_cons, List.map_nil, Partials.along_cons, Partials.along_nil]
          ring
        · simp only [List.map_cons, List.map_nil, Partials.along_cons, Partials.along_nil]
          ring
  | point | circle | arc =>
      cases found
      exact ⟨rfl, hasDerivAt_const t _, hasDerivAt_const t _⟩

theorem separation (moving : HasVelocity path velocity t) {partials : Partials ℝ}
    (found : a.separationPartials (path t) b = some partials) :
    HasDerivAt (fun x => Relation.separation (a.shape (path x)).anchor (b.shape (path x)).anchor)
      (Partials.along velocity partials) t := by
  obtain ⟨firstX, firstY⟩ := moving.anchor a
  obtain ⟨secondX, secondY⟩ := moving.anchor b
  rw [Operand.separationPartials] at found
  dsimp only at found
  split at found
  case isTrue _ => cases found
  case isFalse apart =>
    cases found
    refine (hasDerivAt_hypot (firstX.sub secondX) (firstY.sub secondY)
      (mt (Scalar.isZero_iff _).mpr apart)).congr_deriv ?_
    simp only [Partials.along_cons, Partials.along_nil, Pi.sub_apply]
    ring

theorem dot (moving : HasVelocity path velocity t) {partials : Partials ℝ}
    (found : a.dotPartials (path t) b = some partials) :
    HasDerivAt (fun x => Relation.dot (a.shape (path x)).direction (b.shape (path x)).direction)
      (Partials.along velocity partials) t := by
  rw [Operand.dotPartials] at found
  obtain ⟨u, jetA, found⟩ := Option.bind_eq_some_iff.mp found
  obtain ⟨v, jetB, found⟩ := Option.bind_eq_some_iff.mp found
  obtain ⟨atA, ux, uy⟩ := moving.direction jetA
  obtain ⟨atB, vx, vy⟩ := moving.direction jetB
  cases found
  refine ((ux.mul vx).add (uy.mul vy)).congr_deriv ?_
  rw [Partials.along_append, atA, atB]
  simp only [mul_comm (DirectionPartial.dx _) (Prod.fst _),
    mul_comm (DirectionPartial.dy _) (Prod.snd _)]
  rw [Partials.along_combine, Partials.along_combine]
  ring

theorem cross (moving : HasVelocity path velocity t) {partials : Partials ℝ}
    (found : a.crossPartials (path t) b = some partials) :
    HasDerivAt (fun x => |Relation.cross (a.shape (path x)).direction (b.shape (path x)).direction|)
      (Partials.along velocity partials) t := by
  rw [Operand.crossPartials] at found
  obtain ⟨u, jetA, found⟩ := Option.bind_eq_some_iff.mp found
  obtain ⟨v, jetB, found⟩ := Option.bind_eq_some_iff.mp found
  obtain ⟨atA, ux, uy⟩ := moving.direction jetA
  obtain ⟨atB, vx, vy⟩ := moving.direction jetB
  dsimp only at found
  split at found
  case isTrue _ => cases found
  case isFalse slanted =>
    cases found
    have nonzero :
        Relation.cross (a.shape (path t)).direction (b.shape (path t)).direction ≠ 0 := by
      rw [atA, atB]
      exact mt (Scalar.isZero_iff _).mpr slanted
    have turning : HasDerivAt
        (fun x => Relation.cross (a.shape (path x)).direction (b.shape (path x)).direction) _ t :=
      (ux.mul vy).sub (uy.mul vx)
    refine (hasDerivAt_abs_of_ne turning nonzero).congr_deriv ?_
    rw [Partials.along_append, atA, atB]
    have first (sign : ℝ) (p : DirectionPartial ℝ) :
        sign * (p.dx * v.direction.2 - p.dy * v.direction.1) =
        sign * v.direction.2 * p.dx + -(sign * v.direction.1) * p.dy := by ring
    have second (sign : ℝ) (p : DirectionPartial ℝ) :
        sign * (u.direction.1 * p.dy - u.direction.2 * p.dx) =
        -(sign * u.direction.2) * p.dx + sign * u.direction.1 * p.dy := by ring
    simp only [first, second]
    rw [Partials.along_combine, Partials.along_combine]
    ring

/-- **How fast a residual changes.** -/
theorem residual (moving : HasVelocity path velocity t) {relation : Relation Operand}
    {partials : Partials ℝ} (found : Formulas.partials (path t) relation = some partials)
    (target : ℝ) :
    HasDerivAt (fun x => (relation.map (Operand.shape (path x))).residual target)
      (Partials.along velocity partials) t := by
  cases relation with
  | distance a b => exact (moving.separation found).sub_const target
  | angle a b => cases found
  | parallel a b => exact moving.cross found
  | perpendicular a b => exact moving.dot found
  | coincident a b => exact moving.separation found
  | horizontal a =>
      obtain ⟨jet, known, same⟩ := Option.bind_eq_some_iff.mp found
      cases same
      exact (moving.direction known).2.2
  | vertical a =>
      obtain ⟨jet, known, same⟩ := Option.bind_eq_some_iff.mp found
      cases same
      exact (moving.direction known).2.1

end HasVelocity

/-! ## One slot that moves -/

theorem Jacobian.shift_zero (values : Array ℝ) (slot : ℕ) : shift values slot (· + 0) = values := by
  refine Array.ext_getElem? fun k => ?_
  rw [shift, Array.getElem?_modify]
  split <;> simp

theorem Jacobian.hasVelocity_shift {values : Array ℝ} {slot : ℕ} (within : slot < values.size) :
    HasVelocity (fun x => shift values slot (· + x)) (Pi.single slot 1) 0 := by
  intro k
  by_cases here : slot = k
  · subst here
    have moved :
        (fun x => (shift values slot (· + x)).getD slot Scalar.zero) = fun x =>
          values[slot] + x := by
      funext x
      rw [shift, Array.getD_eq_getD_getElem?, Array.getElem?_modify, if_pos rfl,
        Array.getElem?_eq_getElem within]
      rfl
    rw [moved, Pi.single_eq_same]
    exact (hasDerivAt_id' 0).const_add _
  · have kept : (fun x => (shift values slot (· + x)).getD k Scalar.zero) =
        fun _ => values.getD k Scalar.zero := by
      funext x
      rw [shift, Array.getD_eq_getD_getElem?, Array.getElem?_modify, if_neg here,
        Array.getD_eq_getD_getElem?]
    rw [kept, Pi.single_eq_of_ne (Ne.symm here)]
    exact hasDerivAt_const 0 _

/-- **The formulas are the partial derivatives of the residuals.** There is a formula for every
relation but the angle. Where it has an answer, what it lists for a slot adds up to the derivative
of the residual with respect to that slot, which is zero for a slot that it does not name. -/
theorem Formulas.hasDerivAt_residual {bound : Bound ℝ} (kind : bound.kind ≠ .angle) :
    ∃ formula, standard bound.kind = some formula ∧
      ∀ values listed, formula values bound = some listed → ∀ slot < values.size,
        HasDerivAt (fun x => bound.residual (Jacobian.shift values slot (· + x)))
          (Partials.at listed slot) 0 ∧
          (slot ∉ listed.map Prod.fst →
            HasDerivAt (fun x => bound.residual (Jacobian.shift values slot (· + x))) 0 0) := by
  have known :
      standard bound.kind = some fun (values : Array ℝ) bound =>
        partials values bound.relation := by
    cases other : bound.kind <;> first | rfl | exact absurd other kind
  refine ⟨_, known, fun values listed given slot within => ?_⟩
  have derivative : HasDerivAt (fun x => bound.residual (Jacobian.shift values slot (· + x)))
      (Partials.at listed slot) 0 := by
    rw [← Partials.along_single]
    refine (Jacobian.hasVelocity_shift within).residual ?_ bound.target
    rw [Jacobian.shift_zero]
    exact given
  refine ⟨derivative, fun missing => ?_⟩
  rw [Partials.at_of_notMem missing] at derivative
  exact derivative

/-- The distance of a point and the start of a line, filed in this order. -/
noncomputable def Bound.pointToLine : Bound ℝ :=
  { name := .ofString "D", relation := .distance ⟨.point, 0⟩ ⟨.line, 2⟩, target := 5, tolerance := 1
    columns := [0, 1, 2, 3, 4, 5] }

/-- A point five away from a line's start moves away from it at three fifths of its speed along the
first axis, and the end of the line does not count. -/
theorem Formulas.hasDerivAt_pointToLine :
    Bound.pointToLine.kind ≠ .angle ∧
      HasDerivAt (fun x => Bound.pointToLine.residual
        (Jacobian.shift #[3, 4, 0, 0, 1, 0] 0 (· + x))) (3 / 5) 0 ∧
      HasDerivAt (fun x => Bound.pointToLine.residual
        (Jacobian.shift #[3, 4, 0, 0, 1, 0] 4 (· + x))) 0 0 := by
  have kind : Bound.pointToLine.kind ≠ .angle := by decide
  obtain ⟨formula, known, changes⟩ := hasDerivAt_residual kind
  cases known
  have length : Scalar.hypot ((3 : ℝ) - 0) (4 - 0) = 5 := by
    rw [Scalar.hypot_eq, Real.sqrt_eq_iff_mul_self_eq_of_pos] <;> norm_num
  have given : partials (#[3, 4, 0, 0, 1, 0] : Array ℝ) Bound.pointToLine.relation =
      some [(0, 3 / 5), (1, 4 / 5), (2, -(3 / 5)), (3, -(4 / 5))] := by
    have point : (Operand.shape (#[3, 4, 0, 0, 1, 0] : Array ℝ) ⟨.point, 0⟩).anchor = (3, 4) := rfl
    have start : (Operand.shape (#[3, 4, 0, 0, 1, 0] : Array ℝ) ⟨.line, 2⟩).anchor = (0, 0) := rfl
    rw [Bound.pointToLine, partials, Operand.separationPartials, point, start]
    dsimp only
    rw [length, if_neg (by rw [Scalar.isZero_iff]; norm_num)]
    norm_num
  refine ⟨kind, ?_, (changes _ _ given 4 (by decide)).2 (by decide)⟩
  have first := (changes _ _ given 0 (by decide)).1
  simpa [Partials.at] using first

end PlanarSketch
