import Mathlib
import PlanarSketch.Jacobian
import PlanarSketch.Proofs.Exact.Correction
import PlanarSketch.Proofs.Exact.Swap
import PlanarSketch.Proofs.Layout.Placement

/-!
# Relations between renumbered operands

Two arrays of values can hold the same numbers in differently numbered slots (`Carried`), and a
relation can refer to the same shapes through differently numbered operands, in order or exchanged
(`Relation.Matches`). Then its residual is the same on both sides (`Relation.Matches.residual`), and
the formulas give the same derivative for corresponding slots, or none on both sides
(`Relation.Matches.partials`).
-/

set_option autoImplicit false

namespace PlanarSketch

/-- One array of values is another with its slots renumbered. -/
def Carried (slot : Equiv.Perm ℕ) (values values' : Array ℝ) : Prop :=
  ∀ s : ℕ, values'[slot s]? = values[s]?

theorem Carried.shift {slot : Equiv.Perm ℕ} {values values' : Array ℝ}
    (carried : Carried slot values values') (moved : ℕ) (change : ℝ → ℝ) :
    Carried slot (Jacobian.shift values moved change)
      (Jacobian.shift values' (slot moved) change) := by
  intro s
  rw [Jacobian.shift, Jacobian.shift, Array.getElem?_modify, Array.getElem?_modify, carried s]
  simp only [slot.injective.eq_iff]

/-! ## Operands -/

/-- Two operands are of one kind, and the slots of one are those of the other renumbered. -/
structure Operand.Moved (slot : Equiv.Perm ℕ) (operand operand' : Operand) : Prop where
  kind : operand'.kind = operand.kind
  slots : ∀ k < operand.kind.arity, slot (operand.offset + k) = operand'.offset + k

/-- Partial derivatives with their slots renumbered. -/
def Partials.renumber (slot : Equiv.Perm ℕ) (partials : Partials ℝ) : Partials ℝ :=
  partials.map fun known => (slot known.1, known.2)

def DirectionJet.renumber (slot : Equiv.Perm ℕ) (jet : DirectionJet ℝ) : DirectionJet ℝ :=
  { jet with partials := jet.partials.map fun known => { known with slot := slot known.slot } }

namespace Operand

variable {slot : Equiv.Perm ℕ} {values values' : Array ℝ} {a a' b b' : Operand}

theorem Moved.shape (moved : Moved slot a a') (carried : Carried slot values values') :
    a'.shape values' = a.shape values := by
  rw [Operand.shape, Operand.shape, moved.kind]
  refine Shape.ofReader_congr ?_
  intro k small
  rw [Array.getD_eq_getD_getElem?, Array.getD_eq_getD_getElem?, ← moved.slots k small, carried]

theorem Moved.mem_slots (moved : Moved slot a a') (s : ℕ) : slot s ∈ a'.slots ↔ s ∈ a.slots := by
  simp only [Operand.slots, List.mem_range'_1, moved.kind]
  constructor
  · rintro ⟨after, before⟩
    have here := moved.slots (slot s - a'.offset) (by omega)
    rw [Nat.add_sub_cancel' after, slot.injective.eq_iff] at here
    omega
  · rintro ⟨after, before⟩
    have here := moved.slots (s - a.offset) (by omega)
    rw [Nat.add_sub_cancel' after] at here
    omega

/-- The slots of an anchor are renumbered with the others. -/
theorem Moved.anchor (moved : Moved slot a a') :
    slot a.offset = a'.offset ∧ slot (a.offset + 1) = a'.offset + 1 := by
  have two : 2 ≤ a.kind.arity := by cases a.kind <;> decide
  exact ⟨moved.slots 0 (by omega), moved.slots 1 (by omega)⟩

theorem Moved.separationPartials (first : Moved slot a a') (second : Moved slot b b')
    (carried : Carried slot values values') :
    a'.separationPartials values' b' = (a.separationPartials values b).map
      (Partials.renumber slot) := by
  rw [Operand.separationPartials, Operand.separationPartials, first.shape carried,
    second.shape carried]
  dsimp only
  split
  case isTrue _ => rfl
  case isFalse _ =>
    simp only [Option.map_some, Partials.renumber, List.map_cons, List.map_nil, first.anchor,
      second.anchor]

theorem Moved.directionJet (moved : Moved slot a a') (carried : Carried slot values values') :
    a'.directionJet values' = (a.directionJet values).map (DirectionJet.renumber slot) := by
  have kind : (a.shape values).kind = a.kind := Shape.kind_ofReader _ _
  rw [Operand.directionJet, Operand.directionJet, moved.shape carried]
  cases seen : a.shape values with
  | line x₁ y₁ x₂ y₂ =>
      have four : a.kind.arity = 4 := by rw [← kind, seen]; rfl
      have slots (k : ℕ) (small : k < 4) : slot (a.offset + k) = a'.offset + k :=
        moved.slots k (by omega)
      dsimp only
      split
      case isTrue _ => rfl
      case isFalse _ =>
        simp only [Option.map_some, DirectionJet.renumber, List.map_cons, List.map_nil,
          slots 1 (by decide), slots 2 (by decide), slots 3 (by decide), moved.anchor]
  | point _ _ | circle _ _ _ | arc _ _ _ _ _ => rfl

theorem Moved.dotPartials (first : Moved slot a a') (second : Moved slot b b')
    (carried : Carried slot values values') :
    a'.dotPartials values' b' = (a.dotPartials values b).map (Partials.renumber slot) := by
  rw [Operand.dotPartials, Operand.dotPartials, first.directionJet carried,
    second.directionJet carried]
  cases a.directionJet values with
  | none => rfl
  | some u =>
      cases b.directionJet values with
      | none => rfl
      | some v => simp [DirectionJet.renumber, Partials.renumber, List.map_map, Function.comp_def]

theorem Moved.crossPartials (first : Moved slot a a') (second : Moved slot b b')
    (carried : Carried slot values values') :
    a'.crossPartials values' b' = (a.crossPartials values b).map (Partials.renumber slot) := by
  rw [Operand.crossPartials, Operand.crossPartials, first.directionJet carried,
    second.directionJet carried]
  cases a.directionJet values with
  | none => rfl
  | some u =>
      cases b.directionJet values with
      | none => rfl
      | some v =>
          simp only [Option.map_some, Option.bind_eq_bind, Option.bind_some]
          rw [show (u.renumber slot).direction = u.direction from rfl,
            show (v.renumber slot).direction = v.direction from rfl]
          split
          case isTrue _ => rfl
          case isFalse _ =>
            simp [DirectionJet.renumber, Partials.renumber, List.map_map, Function.comp_def]

end Operand

/-! ## Relations -/

/-- Two relations match when their references move into one another, in order or exchanged. -/
def Relation.Matches (slot : Equiv.Perm ℕ) (relation relation' : Relation Operand) : Prop :=
  ∃ pairs : Relation (Operand × Operand), (∀ pair ∈ pairs.refs, Operand.Moved slot pair.1 pair.2) ∧
    relation = pairs.map Prod.fst ∧
    (relation' = pairs.map Prod.snd ∨ relation' = (pairs.map Prod.snd).swap)

/-- The derivative that partial derivatives give for a slot: the sum of those listed. -/
noncomputable def Partials.at (partials : Partials ℝ) (s : ℕ) : ℝ :=
  ((partials.filter fun known => known.1 = s).map Prod.snd).sum

theorem Partials.at_cons (known : ℕ × ℝ) (rest : Partials ℝ) (s : ℕ) :
    Partials.at (known :: rest) s = (if known.1 = s then known.2 else 0) + Partials.at rest s := by
  by_cases here : known.1 = s <;> simp [Partials.at, here]

theorem Partials.at_perm {partials partials' : Partials ℝ} (perm : partials.Perm partials')
    (s : ℕ) :
    Partials.at partials s = Partials.at partials' s :=
  ((perm.filter _).map _).sum_eq

theorem Partials.at_renumber (slot : Equiv.Perm ℕ) (partials : Partials ℝ) (s : ℕ) :
    Partials.at (renumber slot partials) (slot s) = Partials.at partials s := by
  rw [Partials.at, Partials.at, renumber, List.filter_map, List.map_map]
  congr 2
  refine List.filter_congr fun known _ => ?_
  simp [slot.injective.eq_iff]

/-- For renumbered operands the formulas answer renumbered slots with the same derivatives. -/
theorem Formulas.partials_moved {slot : Equiv.Perm ℕ} {values values' : Array ℝ}
    {pairs : Relation (Operand × Operand)}
    (moved : ∀ pair ∈ pairs.refs, Operand.Moved slot pair.1 pair.2)
    (carried : Carried slot values values') :
    partials values' (pairs.map Prod.snd) =
      (partials values (pairs.map Prod.fst)).map (Partials.renumber slot) := by
  cases pairs with
  | distance a b | coincident a b =>
      exact (moved a (by simp [Relation.refs])).separationPartials
        (moved b (by simp [Relation.refs])) carried
  | angle a b => rfl
  | parallel a b =>
      exact (moved a (by simp [Relation.refs])).crossPartials
        (moved b (by simp [Relation.refs])) carried
  | perpendicular a b =>
      exact (moved a (by simp [Relation.refs])).dotPartials
        (moved b (by simp [Relation.refs])) carried
  | horizontal a | vertical a =>
      have jet := (moved a (by simp [Relation.refs])).directionJet carried
      simp only [Relation.map, Formulas.partials, jet]
      cases a.1.directionJet values with
      | none => rfl
      | some u => simp [DirectionJet.renumber, Partials.renumber, List.map_map, Function.comp_def]

namespace Relation.Matches

variable {slot : Equiv.Perm ℕ} {values values' : Array ℝ} {relation relation' : Relation Operand}

theorem kind (matching : Matches slot relation relation') : relation'.kind = relation.kind := by
  obtain ⟨pairs, _, rfl, rfl | rfl⟩ := matching <;> simp

/-- The slots of matching relations are those of one another renumbered. -/
theorem mem_slots (matching : Matches slot relation relation') (s : ℕ) :
    (∃ operand ∈ relation'.refs, slot s ∈ operand.slots) ↔
      ∃ operand ∈ relation.refs, s ∈ operand.slots := by
  obtain ⟨pairs, moved, rfl, order⟩ := matching
  have refs : ∀ operand, operand ∈ relation'.refs ↔ operand ∈ (pairs.map Prod.snd).refs := by
    rcases order with rfl | rfl
    · exact fun _ => Iff.rfl
    · exact fun operand => Relation.mem_refs_swap _ operand
  simp only [refs, Relation.refs_map, List.mem_map, exists_exists_and_eq_and]
  refine exists_congr fun pair => and_congr_right fun referred => ?_
  exact (moved pair referred).mem_slots s

theorem residual (matching : Matches slot relation relation')
    (carried : Carried slot values values') (target : ℝ) :
    (relation'.map (Operand.shape values')).residual target =
      (relation.map (Operand.shape values)).residual target := by
  obtain ⟨pairs, moved, rfl, order⟩ := matching
  have same :
      pairs.map (fun pair => pair.2.shape values') = pairs.map fun pair => pair.1.shape values :=
    Relation.map_congr fun pair referred => (moved pair referred).shape carried
  rcases order with rfl | rfl
  · rw [Relation.map_map, Relation.map_map, same]
  · rw [Relation.map_swap, Relation.residual_swap, Relation.map_map, Relation.map_map, same]

/-- The formulas for matching relations give corresponding derivatives, or none on both sides. -/
theorem partials (matching : Matches slot relation relation')
    (carried : Carried slot values values') :
    Option.Rel (fun known known' => ∀ s, Partials.at known' (slot s) = Partials.at known s)
      (Formulas.partials values relation) (Formulas.partials values' relation') := by
  obtain ⟨pairs, moved, rfl, order⟩ := matching
  have straight :
      Option.Rel (fun known known' => ∀ s, Partials.at known' (slot s) = Partials.at known s)
      (Formulas.partials values (pairs.map Prod.fst))
        (Formulas.partials values' (pairs.map Prod.snd)) := by
    rw [Formulas.partials_moved moved carried]
    cases Formulas.partials values (pairs.map Prod.fst) with
    | none => exact .none
    | some known => exact .some fun s => Partials.at_renumber slot known s
  rcases order with rfl | rfl
  · exact straight
  · have exchanged := Formulas.partials_swap values' (pairs.map Prod.snd)
    revert straight exchanged
    generalize Formulas.partials values (pairs.map Prod.fst) = known
    generalize Formulas.partials values' (pairs.map Prod.snd) = known'
    generalize Formulas.partials values' (pairs.map Prod.snd).swap = known''
    intro straight exchanged
    cases straight with
    | none =>
        cases exchanged
        exact .none
    | some same =>
        cases exchanged with
        | some perm => exact .some fun s => (Partials.at_perm perm.symm _).trans (same s)

end Relation.Matches

end PlanarSketch
