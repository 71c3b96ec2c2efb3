import Mathlib
import PlanarSketch.Proofs.Exact.Pivots
import PlanarSketch.Proofs.Exact.Solve
import PlanarSketch.Proofs.Newton.Descent

/-!
# A point on a tether

The simplest sketch with something to solve has a fixed point, another point, and their distance
(`Store.Tethered`). Read exactly and with derivatives by formula, its residual shrinks by the same
factor in every iteration, and the loose point stays on the ray on which it starts
(`Store.solve_tethered`).

The derivative of the distance is a vector of length one, so the single equation is solved exactly
(`Correction.solve_single`), and a correction moves the loose point along the ray
(`Layout.Tethers.exists_correction`). It never gets to the fixed point, where there is no
derivative, unless that is where it should be. So the places it comes to are known in advance, as a
path down which the run goes.
-/

set_option autoImplicit false

namespace PlanarSketch

/-! ## A single equation -/

/-- The unknown of a single equation. -/
theorem get_eliminate_single {tolerance : ℝ} {a : Dense 1 1 ℝ} (b : Vector ℝ 1)
    (large : tolerance ≤ |a.entry 0 0|) :
    (eliminate tolerance a b).solution.get 0 = b.get 0 / a.entry 0 0 := by
  have same : (Elimination.forward tolerance a b).matrix = Elimination.extended a b := by
    rw [← Elimination.reached_all]
    exact Elimination.matrix_reached_of_upper (fun k c below => absurd below (by omega)) 1 le_rfl
  have kept : Elimination.isSkipped tolerance (Elimination.extended a b) 0 = false := by
    rw [Elimination.isSkipped_eq_false, Elimination.entry_extended]
    exact large
  rw [eliminate, Elimination.get_backward, same, kept, if_neg Bool.false_ne_true,
    Elimination.unknown, Elimination.entry_extended, Elimination.entry_extended_last]
  simp [Scalar.sum_eq]

/-- A single equation whose derivatives have length one is solved by their multiple. -/
theorem Correction.solve_single {m n : ℕ} (one : m = 1) (wide : m < n) {tolerance : ℝ}
    (small : tolerance ≤ 1) {j : Dense m n ℝ} {i : Fin m}
    (unit : ∑ c, j.entry i c * j.entry i c = 1) (residuals : Vector ℝ m) :
    ∃ correction, solve tolerance j residuals = .ok correction ∧ correction.skipped = 0 ∧
      ∀ c, correction.delta.get c = -(residuals.get i * j.entry i c) := by
  subst one
  obtain rfl : i = 0 := Subsingleton.elim _ _
  have gram : j.gram.entry 0 0 = 1 := by
    rw [Dense.gram, Dense.entry_ofFn, Dense.dot_eq]
    exact unit
  have large : tolerance ≤ |j.gram.entry 0 0| := by
    rw [gram, abs_one]
    exact small
  have shape : step tolerance j (residuals.map fun r => -r) =
      shortest tolerance j (residuals.map fun r => -r) 0 := by
    rw [step, dif_neg wide.ne, if_neg wide.asymm]
  have filled : ¬ (1 = 0 ∨ n = 0) := by omega
  refine ⟨_, (solve_eq tolerance j residuals).trans (if_neg filled), ?_, fun c => ?_⟩
  · rw [shape, shortest]
    exact (Nat.zero_max _).trans (skipped_eliminate_one _ large)
  · have column : (j.transpose.get c).get 0 = j.entry 0 c := Dense.entry_transpose j c 0
    rw [shape, shortest, Dense.apply, Dense.get_ofFn, Dense.dot_eq, Fin.sum_univ_one, column,
      get_eliminate_single _ large, gram, Dense.get_map, div_one]
    ring

/-! ## Positions -/

namespace Tether

/-- The position on the ray from one position through another, at a part of the way between them. -/
def along (p q : ℝ × ℝ) (part : ℝ) : ℝ × ℝ := (p.1 + part * (q.1 - p.1), p.2 + part * (q.2 - p.2))

variable {p q : ℝ × ℝ}

theorem separation_mul_self (p q : ℝ × ℝ) : Relation.separation q p * Relation.separation q p =
    (q.1 - p.1) * (q.1 - p.1) + (q.2 - p.2) * (q.2 - p.2) := by
  rw [Relation.separation, Scalar.hypot_eq]
  exact Real.mul_self_sqrt (add_nonneg (mul_self_nonneg _) (mul_self_nonneg _))

theorem separation_nonneg (p q : ℝ × ℝ) : 0 ≤ Relation.separation q p := Real.sqrt_nonneg _

theorem separation_pos (apart : q ≠ p) : 0 < Relation.separation q p := by
  refine lt_of_le_of_ne (separation_nonneg p q) fun zero => apart ?_
  have squares := separation_mul_self p q
  rw [← zero, mul_zero, eq_comm, mul_self_add_mul_self_eq_zero, sub_eq_zero, sub_eq_zero] at squares
  exact Prod.ext squares.1 squares.2

/-- On the ray, distances are multiples. -/
theorem separation_along {part : ℝ} (forward : 0 ≤ part) (p q : ℝ × ℝ) :
    Relation.separation (along p q part) p = part * Relation.separation q p := by
  rw [← abs_of_nonneg (separation_nonneg p (along p q part)),
    ← abs_of_nonneg (mul_nonneg forward (separation_nonneg p q)), ← sq_eq_sq_iff_abs_eq_abs, sq, sq,
    mul_mul_mul_comm, separation_mul_self, separation_mul_self]
  simp only [along]
  ring

theorem along_one (p q : ℝ × ℝ) : along p q 1 = q := Prod.ext (by simp [along]) (by simp [along])

theorem along_along (p q : ℝ × ℝ) (part more : ℝ) :
    along p (along p q part) more = along p q (more * part) := by
  simp only [along, add_sub_cancel_left, mul_assoc]

/-- The values of a hold at one position and a loose point at another; the latter in slots from
`free` on. -/
def values (free : ℕ) (p q : ℝ × ℝ) : Array ℝ :=
  if free = 0 then #[q.1, q.2, p.1, p.2] else #[p.1, p.2, q.1, q.2]

end Tether

/-! ## The flat view -/

namespace Layout

variable {layout : Layout ℝ}

/-- A sum over the columns is one over the free slots. -/
theorem sum_slotAt (layout : Layout ℝ) (f : ℕ → ℝ) :
    ∑ c, f (layout.slotAt c) = (layout.freeSlots.toList.map f).sum := by
  rw [Fin.sum_univ_def]
  refine congrArg List.sum (List.ext_getElem ?_ fun k _ _ => ?_)
  · simp [unknowns]
  · rw [List.getElem_map, List.getElem_map, List.getElem_finRange]
    rfl

/-- A correction that is known slot by slot moves the free slots. -/
theorem advance_eq (distinct : Function.Injective layout.slotAt) {delta : Vector ℝ layout.unknowns}
    (change : ℕ → ℝ) (known : ∀ c, delta.get c = change (layout.slotAt c)) (damping : ℝ)
    (values : Array ℝ) :
    layout.advance damping delta values = values.mapIdx fun slot value =>
      if slot ∈ layout.freeSlots then value + damping * change slot else value := by
  rw [advance]
  congr
  funext slot value
  cases found : layout.columnOf slot with
  | none =>
      rw [if_neg]
      rw [← mem_range_slotAt]
      rintro ⟨column, here⟩
      rw [(columnOf_eq_some_iff distinct).mpr here] at found
      cases found
  | some column =>
      have here := (columnOf_eq_some_iff distinct).mp found
      rw [if_pos ((mem_range_slotAt _ _).mp ⟨column, here⟩), ← here]
      exact congrArg (value + damping * ·) (known column)

/-- A flat view of nothing but a hold, a loose point and their distance. -/
structure Tethers (layout : Layout ℝ) (hold free : ℕ) (length : ℝ) : Prop where
  places : hold = 0 ∧ free = 2 ∨ hold = 2 ∧ free = 0
  freeSlots : layout.freeSlots = #[free, free + 1]
  single : layout.equations = 1
  relation : ∀ i, (layout.boundAt i).relation = .distance ⟨.point, free⟩ ⟨.point, hold⟩ ∨
    (layout.boundAt i).relation = .distance ⟨.point, hold⟩ ⟨.point, free⟩
  target : ∀ i, (layout.boundAt i).target = length
  dependent : ∀ i, (layout.boundAt i).columns.isEmpty = false

namespace Tethers

open Tether (along values)

variable {hold free : ℕ} {length : ℝ} {p q : ℝ × ℝ}

theorem distinct (tethers : layout.Tethers hold free length) : Function.Injective layout.slotAt :=
  slotAt_injective (by simp [tethers.freeSlots])

theorem anchor_free (tethers : layout.Tethers hold free length) (p q : ℝ × ℝ) :
    (Operand.shape (values free p q) ⟨.point, free⟩).anchor = q := by
  rcases tethers.places with ⟨rfl, rfl⟩ | ⟨rfl, rfl⟩ <;>
    simp [values, Operand.shape, Shape.ofReader, Shape.anchor]

theorem anchor_hold (tethers : layout.Tethers hold free length) (p q : ℝ × ℝ) :
    (Operand.shape (values free p q) ⟨.point, hold⟩).anchor = p := by
  rcases tethers.places with ⟨rfl, rfl⟩ | ⟨rfl, rfl⟩ <;>
    simp [values, Operand.shape, Shape.ofReader, Shape.anchor]

theorem residual (tethers : layout.Tethers hold free length) (p q : ℝ × ℝ)
    (i : Fin layout.equations) :
    (layout.boundAt i).residual (values free p q) = Relation.separation q p - length := by
  rw [Bound.residual, tethers.target]
  rcases tethers.relation i with same | same <;> rw [same]
  · exact congrArg₂ (fun a b => Relation.separation a b - length) (tethers.anchor_free p q)
      (tethers.anchor_hold p q)
  · rw [← Relation.separation_swap]
    exact congrArg₂ (fun a b => Relation.separation a b - length) (tethers.anchor_hold p q)
      (tethers.anchor_free p q)

/-- The norm is how far the distance is from its target. -/
theorem normAt_eq (tethers : layout.Tethers hold free length) (settings : Settings ℝ)
    (p q : ℝ × ℝ) :
    Newton.normAt (Newton.problemOf layout settings) (values free p q) =
      |Relation.separation q p - length| := by
  rw [Newton.normAt, residualNorm_eq, Dense.dot_eq, ← Real.sqrt_mul_self_eq_abs]
  simp only [get_residuals, tethers.residual, Finset.sum_const, Finset.card_univ, Fintype.card_fin]
  rw [tethers.single, one_smul]

/-- Away from the hold, the distance changes with the loose point along the ray. -/
theorem exists_partials (tethers : layout.Tethers hold free length)
    (apart : 0 < Relation.separation q p) (i : Fin layout.equations) :
    ∃ partials, Formulas.partials (values free p q) (layout.boundAt i).relation = some partials ∧
      Partials.at partials free = (q.1 - p.1) / Relation.separation q p ∧
      Partials.at partials (free + 1) = (q.2 - p.2) / Relation.separation q p := by
  set ux := (q.1 - p.1) / Relation.separation q p with first
  set uy := (q.2 - p.2) / Relation.separation q p with second
  have nonzero : ¬ Scalar.isZero (Relation.separation q p) = true :=
    mt (Scalar.isZero_iff _).mp apart.ne'
  have straight : Operand.separationPartials (values free p q) ⟨.point, free⟩ ⟨.point, hold⟩ =
      some [(free, ux), (free + 1, uy), (hold, -ux), (hold + 1, -uy)] := by
    rw [Operand.separationPartials, tethers.anchor_free, tethers.anchor_hold]
    exact if_neg nonzero
  have listed : Partials.at [(free, ux), (free + 1, uy), (hold, -ux), (hold + 1, -uy)] free = ux ∧
      Partials.at [(free, ux), (free + 1, uy), (hold, -ux), (hold + 1, -uy)] (free + 1) = uy := by
    rcases tethers.places with ⟨rfl, rfl⟩ | ⟨rfl, rfl⟩ <;> simp [Partials.at]
  rcases tethers.relation i with same | same <;> rw [same]
  · exact ⟨_, straight, listed⟩
  · have swapped := Operand.separationPartials_swap (values free p q) ⟨.point, free⟩ ⟨.point, hold⟩
    rw [straight] at swapped
    rw [Formulas.partials]
    revert swapped
    generalize Operand.separationPartials (values free p q) ⟨.point, hold⟩ ⟨.point, free⟩ = other
    intro swapped
    cases swapped with
    | some perm =>
        refine ⟨_, rfl, ?_⟩
        rwa [← Partials.at_perm perm, ← Partials.at_perm perm]

/-- A correction moves only the loose point. -/
theorem advance_values (tethers : layout.Tethers hold free length)
    {delta : Vector ℝ layout.unknowns} (change : ℕ → ℝ)
    (known : ∀ c, delta.get c = change (layout.slotAt c)) (damping : ℝ) (p q : ℝ × ℝ) :
    layout.advance damping delta (values free p q) =
      values free p (q.1 + damping * change free, q.2 + damping * change (free + 1)) := by
  rw [advance_eq tethers.distinct change known, tethers.freeSlots]
  rcases tethers.places with ⟨rfl, rfl⟩ | ⟨rfl, rfl⟩ <;> simp [values]

/-- **A correction moves the loose point along the ray**, by a part of what the distance is off its
target. -/
theorem exists_correction (tethers : layout.Tethers hold free length) {settings : Settings ℝ}
    (analytic : settings.mode = .analytic) (pivots : settings.pivotTolerance ≤ 1)
    (apart : 0 < Relation.separation q p) :
    ∃ correction,
      Newton.correctionAt (Newton.problemOf layout settings) (values free p q) = .ok correction ∧
      correction.skipped = 0 ∧
      Newton.moved (Newton.problemOf layout settings) (values free p q) correction =
        values free p (along p q (1 - settings.damping *
          (Relation.separation q p - length) / Relation.separation q p)) := by
  have wide : layout.equations < layout.unknowns := by
    simp [tethers.single, unknowns, tethers.freeSlots]
  let i : Fin layout.equations := ⟨0, by rw [tethers.single]; exact one_pos⟩
  obtain ⟨partials, known, across, up⟩ := tethers.exists_partials apart i
  have entry :=
    entry_of_partials tethers.distinct analytic (tethers.dependent i) known settings.epsilon
  have unit :
      ∑ c, Partials.at partials (layout.slotAt c) * Partials.at partials (layout.slotAt c) = 1 := by
    rw [sum_slotAt layout fun slot => Partials.at partials slot * Partials.at partials slot,
      tethers.freeSlots]
    simp only [List.map_cons, List.map_nil, List.sum_cons, List.sum_nil, add_zero, across, up]
    rw [div_mul_div_comm, div_mul_div_comm, ← add_div, ← Tether.separation_mul_self]
    exact div_self (mul_ne_zero apart.ne' apart.ne')
  simp only [← entry] at unit
  obtain ⟨correction, solved, all, delta⟩ :=
    Correction.solve_single tethers.single (tethers.single ▸ wide)
    pivots unit (layout.residuals (values free p q))
  refine ⟨correction, solved, all, ?_⟩
  have steps (c : Fin layout.unknowns) : correction.delta.get c =
      -((Relation.separation q p - length) * Partials.at partials (layout.slotAt c)) := by
    rw [delta, entry, get_residuals, tethers.residual]
  refine (tethers.advance_values
    (fun slot => -((Relation.separation q p - length) * Partials.at partials slot))
    steps settings.damping p q).trans (congrArg (values free p) (Prod.ext ?_ ?_))
  · rw [across]
    simp only [along]
    ring
  · rw [up]
    simp only [along]
    ring

end Tethers

end Layout

/-! ## The run -/

/-- Settings as a configuration can have them, with derivatives by formula, and under which a pivot
of one is not skipped. -/
structure Settings.Steady (settings : Settings ℝ) : Prop where
  analytic : settings.mode = .analytic
  damping_pos : 0 < settings.damping
  damping_le : settings.damping ≤ 1
  pivots : settings.pivotTolerance ≤ 1
  tolerance : 0 < settings.tolerance
  limit : settings.exceedsLimit 0 = false

/-- A norm that does not end a run is positive. -/
theorem Settings.Steady.pos_of_large {settings : Settings ℝ} (steady : settings.Steady) {norm : ℝ}
    (large : Scalar.lt norm settings.tolerance = false) : 0 < norm :=
  steady.tolerance.trans_le ((Scalar.lt_eq_false_iff _ _).mp large)

namespace Tether

/-- The distance after some corrections, from a distance and its target. -/
def reach (damping start length : ℝ) (count : ℕ) : ℝ :=
  length + (1 - damping) ^ count * (start - length)

variable {damping start length : ℝ}

theorem reach_zero : reach damping start length 0 = start := by
  simp [reach]

theorem reach_succ (count : ℕ) : reach damping start length (count + 1) =
    reach damping start length count - damping * (reach damping start length count - length) := by
  rw [reach, reach, pow_succ]
  ring

/-- What is left of a distance that is too long or too short shrinks by the same factor each
time. -/
theorem abs_reach_sub (le : damping ≤ 1) (count : ℕ) :
    |reach damping start length count - length| = (1 - damping) ^ count * |start - length| := by
  rw [reach, add_sub_cancel_left, abs_mul, abs_of_nonneg (pow_nonneg (sub_nonneg.mpr le) count)]

/-- A distance stays between its start and its target. -/
theorem reach_eq_average (damping start length : ℝ) (count : ℕ) : reach damping start length count =
    (1 - (1 - damping) ^ count) * length + (1 - damping) ^ count * start := by
  rw [reach]
  ring

section Positive

variable (positive : 0 < damping) (le : damping ≤ 1) (nonneg : 0 ≤ length) (count : ℕ)

include positive le nonneg

theorem remaining_le : (1 - damping) ^ count * start ≤ reach damping start length count := by
  have shrinks : (1 - damping) ^ count ≤ 1 := pow_le_one₀ (sub_nonneg.mpr le) (by linarith)
  rw [reach_eq_average]
  exact le_add_of_nonneg_left (mul_nonneg (sub_nonneg.mpr shrinks) nonneg)

theorem reach_nonneg (forward : 0 < start) : 0 ≤ reach damping start length count :=
  (mul_nonneg (pow_nonneg (sub_nonneg.mpr le) count) forward.le).trans
    (remaining_le positive le nonneg count)

/-- The distance vanishes only where it should. -/
theorem reach_pos (forward : 0 < start) (off : reach damping start length count - length ≠ 0) :
    0 < reach damping start length count := by
  have left : (1 - damping) ^ count ≠ 0 := by
    intro none
    rw [reach, none, zero_mul, add_zero, sub_self] at off
    exact off rfl
  have some := (pow_nonneg (sub_nonneg.mpr le) count).lt_of_ne' left
  exact (mul_pos some forward).trans_le (remaining_le positive le nonneg count)

end Positive

/-- The position of the loose point after some corrections. -/
noncomputable def position (damping length : ℝ) (p q : ℝ × ℝ) (count : ℕ) : ℝ × ℝ :=
  along p q (reach damping (Relation.separation q p) length count / Relation.separation q p)

section Run

variable {layout : Layout ℝ} {hold free : ℕ} {p q : ℝ × ℝ} {settings : Settings ℝ}
variable (tethers : layout.Tethers hold free length) (steady : settings.Steady)
  (apart : 0 < Relation.separation q p) (nonneg : 0 ≤ length)

theorem position_zero (apart : 0 < Relation.separation q p) :
    position damping length p q 0 = q := by
  rw [position, reach_zero, div_self apart.ne', along_one]

include steady apart nonneg

theorem separation_position (count : ℕ) :
    Relation.separation (position settings.damping length p q count) p =
      reach settings.damping (Relation.separation q p) length count := by
  have forward := reach_nonneg steady.damping_pos steady.damping_le nonneg count apart
  rw [position, separation_along (div_nonneg forward apart.le), div_mul_cancel₀ _ apart.ne']

include tethers

theorem normAt_position (count : ℕ) :
    Newton.normAt (Newton.problemOf layout settings)
      (values free p (position settings.damping length p q count)) =
      (1 - settings.damping) ^ count * |Relation.separation q p - length| := by
  rw [tethers.normAt_eq, separation_position steady apart nonneg, abs_reach_sub steady.damping_le]

/-- **A run goes down the ray**, and each correction takes off the same part of the residual. -/
theorem descends : Newton.Descends (Newton.problemOf layout settings)
    fun count => values free p (position settings.damping length p q count) where
  finite _ := rfl
  onward := by
    intro count large
    have far := steady.pos_of_large large
    rw [tethers.normAt_eq, separation_position steady apart nonneg] at far
    have forward :=
      reach_pos steady.damping_pos steady.damping_le nonneg count apart (abs_pos.mp far)
    have away : 0 < Relation.separation (position settings.damping length p q count) p := by
      rwa [separation_position steady apart nonneg]
    obtain ⟨correction, solved, all, moved⟩ :=
      tethers.exists_correction steady.analytic steady.pivots away
    refine ⟨correction, solved, all ▸ steady.limit, moved.trans (congrArg (values free p) ?_)⟩
    rw [separation_position steady apart nonneg, position, position, along_along, reach_succ]
    congr 1
    field_simp
  down := by
    intro count large
    have far := steady.pos_of_large large
    rw [normAt_position tethers steady apart nonneg] at far
    rw [Scalar.lt_iff, normAt_position tethers steady apart nonneg,
      normAt_position tethers steady apart nonneg, pow_succ', mul_assoc]
    exact mul_lt_of_lt_one_left far (sub_lt_self 1 steady.damping_pos)

end Run

end Tether

/-! ## The sketch -/

/-- A point with a name. -/
def Tether.point (name : Text) (position : ℝ × ℝ) (fixed : Bool) : Entity ℝ :=
  { name, shape := .point position.1 position.2, fixed }

/-- A store of a fixed point, a point that is not fixed, and their distance. -/
structure Store.Tethered (store : Store ℝ) (hold loose : Text) (p q : ℝ × ℝ)
    (length : ℝ) : Prop where
  apart : hold ≠ loose
  entities : store.entities = [Tether.point hold p true, Tether.point loose q false] ∨
    store.entities = [Tether.point loose q false, Tether.point hold p true]
  constraint : ∃ constraint, store.constraints = [constraint] ∧ constraint.value = some length ∧
    (constraint.relation = .distance hold loose ∨ constraint.relation = .distance loose hold)

namespace Store.Tethered

open Tether (values)

variable {store : Store ℝ} {hold loose : Text} {p q : ℝ × ℝ} {length : ℝ}

theorem coherent (tethered : store.Tethered hold loose p q length) : store.Coherent := by
  obtain ⟨constraint, only, _, relation⟩ := tethered.constraint
  refine ⟨?_, ?_, ?_⟩
  · rcases tethered.entities with same | same <;>
      simp [same, Ledger.Distinct, Ledger.names, Named.name, Tether.point, tethered.apart,
        tethered.apart.symm]
  · simp [only, Ledger.Distinct, Ledger.names]
  · intro other listed name referred
    rw [only, List.mem_singleton] at listed
    subst listed
    have either : name = hold ∨ name = loose := by
      rcases relation with same | same <;> rw [same] at referred <;>
        simpa [Relation.refs, or_comm] using referred
    rcases either with rfl | rfl <;> rcases tethered.entities with same | same <;>
      simp [same, Ledger.names, Named.name, Tether.point]

/-- Its flat view, by the places of the two points. -/
theorem tethers (tethered : store.Tethered hold loose p q length) {first free : ℕ}
    (places : first = 0 ∧ free = 2 ∨ first = 2 ∧ free = 0)
    (freeSlots : (Layout.laid store).freeSlots = #[free, free + 1])
    (held : (first, Tether.point hold p true) ∈ Entity.placed 0 store.entities)
    (loosed : (free, Tether.point loose q false) ∈ Entity.placed 0 store.entities) :
    (Layout.laid store).Tethers first free length := by
  obtain ⟨constraint, only, value, relation⟩ := tethered.constraint
  have bound (i : Fin (Layout.laid store).equations) : (Layout.laid store).boundAt i =
      Layout.boundOf (Block.ofEntities 0 store.entities) constraint := by
    obtain ⟨other, here, same⟩ := Layout.getElem?_constraints store i
    have listed := List.mem_of_getElem? here
    rw [only, List.mem_singleton] at listed
    rw [same, listed]
  have operand : Layout.operandOf (Block.ofEntities 0 store.entities) hold = ⟨.point, first⟩ :=
    Layout.operandOf_of_placed tethered.coherent held
  have operand' : Layout.operandOf (Block.ofEntities 0 store.entities) loose = ⟨.point, free⟩ :=
    Layout.operandOf_of_placed tethered.coherent loosed
  have known : (Layout.boundOf (Block.ofEntities 0 store.entities) constraint).relation =
        .distance ⟨.point, free⟩ ⟨.point, first⟩ ∨
      (Layout.boundOf (Block.ofEntities 0 store.entities) constraint).relation =
        .distance ⟨.point, first⟩ ⟨.point, free⟩ := by
    rw [Layout.boundOf]
    dsimp only
    rcases relation with same | same <;> rw [same, Relation.map, operand, operand']
    · exact .inr rfl
    · exact .inl rfl
  refine ⟨places, freeSlots, ?_, fun i => ?_, fun i => ?_, fun i => ?_⟩
  · simp [Layout.laid, Layout.equations, only]
  · rw [bound]
    exact known
  · rw [bound]
    rcases relation with same | same <;>
      simp [Layout.boundOf, Constraint.target, Constraint.kind, same, Relation.kind, value]
  · have unknown : free ∈ (Layout.laid store).freeSlots := by simp [freeSlots]
    obtain ⟨column, here⟩ := (Layout.mem_range_slotAt _ _).mpr unknown
    have own : free ∈ (⟨.point, free⟩ : Operand).slots := by simp [Operand.slots, ShapeKind.arity]
    rw [bound, List.isEmpty_eq_false_iff_exists_mem]
    refine ⟨column.val, (Layout.mem_columns store constraint _).mpr
      ⟨column, rfl, ⟨.point, free⟩, ?_, ?_⟩⟩
    · rcases known with same | same <;> simp [same, Relation.refs]
    · rwa [here]

/-- The flat view of such a store, its values, and what is read off other values. -/
theorem exists_tethers (tethered : store.Tethered hold loose p q length) :
    ∃ first free, (Layout.laid store).Tethers first free length ∧
      store.parameters.toArray = values free p q ∧
      ∀ q', Tethered { store with entities := store.entitiesAt (values free p q') }
        hold loose p q' length := by
  rcases tethered.entities with same | same
  · refine ⟨0, 2, tethered.tethers (.inl ⟨rfl, rfl⟩) ?_ ?_ ?_, ?_, fun q' =>
      ⟨tethered.apart, .inl ?_, tethered.constraint⟩⟩
    · rw [Layout.laid, same]
      rfl
    · simp [same, Entity.placed]
    · simp [same, Entity.placed, Tether.point, Entity.arity, Entity.kind, Shape.kind,
        ShapeKind.arity]
    · rw [Store.parameters, same]
      rfl
    · rw [entitiesAt, same]
      rfl
  · refine ⟨2, 0, tethered.tethers (.inr ⟨rfl, rfl⟩) ?_ ?_ ?_, ?_, fun q' =>
      ⟨tethered.apart, .inr ?_, tethered.constraint⟩⟩
    · rw [Layout.laid, same]
      rfl
    · simp [same, Entity.placed, Tether.point, Entity.arity, Entity.kind, Shape.kind,
        ShapeKind.arity]
    · simp [same, Entity.placed]
    · rw [Store.parameters, same]
      rfl
    · rw [entitiesAt, same]
      rfl

/-- Notes in constraints do not matter. -/
theorem noted {entities : List (Entity ℝ)}
    (tethered : Tethered { store with entities } hold loose p q length) (values : Array ℝ) :
    Tethered { entities, constraints := store.constraints.map (store.notedAt values) }
      hold loose p q length := by
  obtain ⟨constraint, only, value, relation⟩ := tethered.constraint
  exact ⟨tethered.apart, tethered.entities, store.notedAt values constraint,
    congrArg (List.map _) only, value, relation⟩

end Store.Tethered

/-! ## The result -/

/-- A report of a run on which the norm starts with `off` and shrinks by `ratio` each time. -/
structure Report.Geometric (report : Report ℝ) (settings : Settings ℝ) (ratio off : ℝ) : Prop where
  history : ∃ last ≤ settings.budget,
    report.history = (List.range (last + 1)).map (fun k => ratio ^ k * off) ∧
    report.residual = some (ratio ^ last * off) ∧
    (∀ k < last, settings.tolerance ≤ ratio ^ k * off) ∧
    (last < settings.budget → ratio ^ last * off < settings.tolerance)
  converged : report.ending = .converged ↔ ratio ^ settings.budget * off < settings.tolerance
  exhausted : report.ending ≠ .converged →
    report.ending = .exhausted ∧ report.residual = some (ratio ^ settings.budget * off)

namespace Store

variable {store : Store ℝ} {hold loose : Text} {p q : ℝ × ℝ} {length : ℝ} {settings : Settings ℝ}

/-- What is reported of a run down a path on which the norm shrinks by the same factor each time. -/
theorem Reported.geometric {outcome : Outcome ℝ} {solved : Solved ℝ} {report : Report ℝ}
    (made : store.Reported outcome solved report) {path : ℕ → Array ℝ} {last : ℕ} {ratio off : ℝ}
    (descended : Newton.Descended (Newton.problemOf (Layout.laid store) settings) path last outcome)
    (norm : ∀ k, Newton.normAt (Newton.problemOf (Layout.laid store) settings) (path k) =
      ratio ^ k * off) (nonneg : 0 ≤ ratio) (le : ratio ≤ 1) (forward : 0 ≤ off) :
    report.Geometric settings ratio off := by
  have ending := made.ending.trans descended.ending
  have history := made.history.trans descended.history
  have residual := made.residual.trans descended.residual
  simp only [norm] at ending history residual
  have large (k : ℕ) (before : k < last) : settings.tolerance ≤ ratio ^ k * off := by
    have still := descended.large k before
    rwa [Scalar.lt_eq_false_iff, norm] at still
  have small (unspent : last < settings.budget) : ratio ^ last * off < settings.tolerance := by
    have ended := descended.small unspent
    rwa [Scalar.lt_iff, norm] at ended
  by_cases below : ratio ^ last * off < settings.tolerance
  · -- The norm at the end of the budget is smaller still.
    have further : ratio ^ settings.budget * off ≤ ratio ^ last * off :=
      mul_le_mul_of_nonneg_right (pow_le_pow_of_le_one nonneg le descended.within) forward
    rw [if_pos ((Scalar.lt_iff _ _).mpr below)] at ending
    exact ⟨⟨last, descended.within, history, residual, large, small⟩,
      iff_of_true ending (further.trans_lt below), fun other => absurd ending other⟩
  · obtain rfl : last = settings.budget :=
      descended.within.eq_of_not_lt fun unspent => below (small unspent)
    rw [if_neg (mt (Scalar.lt_iff _ _).mp below)] at ending
    refine ⟨⟨_, le_rfl, history, residual, large, small⟩, iff_of_false ?_ below, fun _ =>
      ⟨ending, residual⟩⟩
    rw [ending]
    nofun

/-- **A tethered point converges geometrically, along its ray.** Read exactly, with derivatives by
formula, the residual of a fixed point, a point elsewhere and their distance is smaller by the same
factor after each iteration. The run converges when the budget is enough for it to get below the
tolerance, and otherwise spends the budget. Every position of the loose point on the way is on the
ray from the fixed point on which it starts. -/
theorem solve_tethered (tethered : store.Tethered hold loose p q length) (apart : q ≠ p)
    (nonneg : 0 ≤ length) (steady : settings.Steady) :
    ∃ solved report, store.solve settings .standard (fun _ => false) = .ok solved ∧
      solved.report = .ok report ∧
      report.Geometric settings (1 - settings.damping) |Relation.separation q p - length| ∧
      (∀ done values,
        Newton.valuesAt (Newton.problemOf (Layout.laid store) settings)
          store.parameters.toArray done = some values →
        ∃ part ≥ 0, Tethered { store with entities := store.entitiesAt values } hold loose p
          (Tether.along p q part) length) ∧
      ∃ part ≥ 0, solved.store.Tethered hold loose p (Tether.along p q part) length := by
  obtain ⟨first, free, tethers, start, read⟩ := tethered.exists_tethers
  have away := Tether.separation_pos apart
  have descends := Tether.descends tethers steady away nonneg
  have origin : store.parameters.toArray =
      Tether.values free p (Tether.position settings.damping length p q 0) := by
    rw [Tether.position_zero away, start]
  have onRay (done : ℕ) : ∃ part ≥ 0, Tethered { store with
      entities := store.entitiesAt
        (Tether.values free p (Tether.position settings.damping length p q done)) }
      hold loose p (Tether.along p q part) length :=
    ⟨_, div_nonneg (Tether.reach_nonneg steady.damping_pos steady.damping_le nonneg done away)
      away.le, read _⟩
  obtain ⟨solved, report, done, reports, made⟩ :=
    exists_report tethered.coherent settings fun _ => false
  rw [origin] at made
  obtain ⟨last, descended⟩ := descends.run_descended
  refine ⟨solved, report, done, reports, ?_, ?_, ?_⟩
  · exact made.geometric descended (Tether.normAt_position tethers steady away nonneg)
      (sub_nonneg.mpr steady.damping_le) (sub_le_self 1 steady.damping_pos.le) (abs_nonneg _)
  · intro done values reached
    rw [origin] at reached
    obtain ⟨state, here, rfl⟩ := Option.map_eq_some_iff.mp reached
    rw [(descends.of_stateAt here).1]
    exact onRay done
  · obtain ⟨part, forward, there⟩ := onRay last
    refine ⟨part, forward, ?_⟩
    rw [made.after, descended.values]
    exact there.noted _

/-- Where half of each correction is applied, three iterations halve the residual three times. -/
theorem solve_tethered_half :
    Pair.ordered.Tethered (.ofString "A") (.ofString "P") (0, 0) (1, 0) 2 ∧
    ∃ solved report,
      Pair.ordered.solve { Pair.settings with budget := 3, damping := 1 / 2 } .standard
        (fun _ => false) = .ok solved ∧
      solved.report = .ok report ∧ report.history = [1, 1 / 2, 1 / 4, 1 / 8] ∧
      report.ending = .exhausted ∧ report.residual = some (1 / 8) := by
  have tethered : Pair.ordered.Tethered (.ofString "A") (.ofString "P") (0, 0) (1, 0) 2 :=
    ⟨by decide, .inl rfl, Pair.apart, rfl, rfl, .inl rfl⟩
  have steady : Settings.Steady { Pair.settings with budget := 3, damping := 1 / 2 } := by
    refine ⟨rfl, ?_, ?_, ?_, ?_, rfl⟩ <;> norm_num [Pair.settings]
  have off : |Relation.separation ((1 : ℝ), (0 : ℝ)) (0, 0) - 2| = 1 := by
    norm_num [Relation.separation, Scalar.hypot_eq]
  obtain ⟨solved, report, done, reports, geometric, _⟩ :=
    solve_tethered tethered (by simp) (by norm_num) steady
  rw [off] at geometric
  have spent : report.ending ≠ .converged := mt geometric.converged.mp (by norm_num [Pair.settings])
  obtain ⟨exhausted, residual⟩ := geometric.exhausted spent
  obtain ⟨last, within, history, _, _, small⟩ := geometric.history
  obtain rfl : last = 3 := by
    refine within.eq_of_not_lt fun unspent => ?_
    have below := small unspent
    interval_cases last <;> norm_num [Pair.settings] at below
  refine ⟨tethered, solved, report, done, reports, history.trans ?_, exhausted, residual.trans ?_⟩
  · norm_num [List.range_succ]
  · norm_num

end Store

end PlanarSketch
