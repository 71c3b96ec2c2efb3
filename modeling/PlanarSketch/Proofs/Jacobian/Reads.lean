import PlanarSketch.Jacobian
import PlanarSketch.Proofs.Layout.Placement

/-!
# What a constraint reads

A relation about anchors reads the first two parameters of its shapes, one about directions all four
of a line and nothing of what is not a line (`ShapeKind.read`). In the flat view these are some of
the slots of the operands (`Relation.reads`).

Nothing else matters to a constraint. Its residual is the same at values that agree where it reads
(`Bound.residual_congr`), so moving another slot does not change it (`Bound.residual_shift`), and a
standard formula lists derivatives for no other slot (`Formulas.mem_reads_of_partials`).
-/

set_option autoImplicit false

namespace PlanarSketch

variable {α : Type}

/-- The parameters of a shape that a relation of a given kind reads. -/
def ShapeKind.read (kind : ShapeKind) (relation : RelationKind) : List Nat :=
  if relation.isDirectional then
    match kind with
    | .line => [0, 1, 2, 3]
    | _ => []
  else [0, 1]

theorem ShapeKind.lt_arity_of_mem_read {kind : ShapeKind} {relation : RelationKind} {k : Nat}
    (read : k ∈ kind.read relation) : k < kind.arity := by
  revert read
  unfold ShapeKind.read
  cases relation.isDirectional <;> cases kind <;> simp [arity] <;> omega

/-- Beyond the anchor, only the direction of a line is read. -/
theorem ShapeKind.lt_two_of_mem_read {kind : ShapeKind} {relation : RelationKind} {k : Nat}
    (anchored : kind ≠ .line ∨ relation.isDirectional = false) (read : k ∈ kind.read relation) :
    k < 2 := by
  revert read
  unfold ShapeKind.read
  rcases anchored with flat | located
  · cases relation.isDirectional <;> cases kind <;> simp at flat ⊢ <;> omega
  · rw [located]
    simp
    omega

theorem ShapeKind.read_of_directional {kind : ShapeKind} {relation : RelationKind}
    (directional : relation.isDirectional = true) (flat : kind ≠ .line) :
    kind.read relation = [] := by
  unfold ShapeKind.read
  rw [if_pos directional]
  cases kind with
  | line => exact absurd rfl flat
  | point | circle | arc => rfl

namespace Operand

/-- The slots of an operand that a relation of a given kind reads. -/
def read (relation : RelationKind) (operand : Operand) : List Nat :=
  (operand.kind.read relation).map (operand.offset + ·)

theorem mem_slots_of_mem_read {operand : Operand} {relation : RelationKind} {slot : Nat}
    (read : slot ∈ operand.read relation) : slot ∈ operand.slots := by
  obtain ⟨k, known, rfl⟩ := List.mem_map.mp read
  have small := ShapeKind.lt_arity_of_mem_read known
  rw [slots, List.mem_range'_1]
  omega

end Operand

/-- The slots that a bound relation reads. -/
def Relation.reads (relation : Relation Operand) : List Nat :=
  relation.refs.flatMap (Operand.read relation.kind)

theorem Relation.mem_slots_of_mem_reads {relation : Relation Operand} {slot : Nat}
    (read : slot ∈ relation.reads) : ∃ operand ∈ relation.refs, slot ∈ operand.slots := by
  obtain ⟨operand, referred, own⟩ := List.mem_flatMap.mp read
  exact ⟨operand, referred, Operand.mem_slots_of_mem_read own⟩

variable [Scalar α]

/-! ## Values that agree -/

section Agree

variable {values other : Array α} {kind : RelationKind}

theorem Operand.anchor_congr {operand : Operand} (located : kind.isDirectional = false)
    (agree : ∀ slot ∈ operand.read kind, values[slot]? = other[slot]?) :
    (operand.shape values).anchor = (operand.shape other).anchor := by
  have first := agree operand.offset (by simp [read, ShapeKind.read, located])
  have second := agree (operand.offset + 1) (by simp [read, ShapeKind.read, located])
  unfold shape
  cases operand.kind <;>
    simp [Shape.ofReader, Shape.anchor, Array.getD_eq_getD_getElem?, first, second]

theorem Operand.direction_congr {operand : Operand} (directional : kind.isDirectional = true)
    (agree : ∀ slot ∈ operand.read kind, values[slot]? = other[slot]?) :
    (operand.shape values).direction = (operand.shape other).direction := by
  obtain ⟨shape, offset⟩ := operand
  cases shape with
  | line =>
      have all (k : Nat) (small : k < 4) : values[offset + k]? = other[offset + k]? := by
        refine agree _ (List.mem_map_of_mem ?_)
        simp only [ShapeKind.read, directional, if_true, List.mem_cons, List.not_mem_nil]
        omega
      refine congrArg Shape.direction (Shape.ofReader_congr fun k small => ?_)
      rw [Array.getD_eq_getD_getElem?, Array.getD_eq_getD_getElem?, all k small]
  | point | circle | arc => rfl

/-- **A residual depends only on the slots read.** -/
theorem Bound.residual_congr {bound : Bound α}
    (agree : ∀ slot ∈ bound.relation.reads, values[slot]? = other[slot]?) :
    bound.residual values = bound.residual other := by
  have each (operand : Operand) (referred : operand ∈ bound.relation.refs) :
      ∀ slot ∈ operand.read bound.relation.kind, values[slot]? = other[slot]? :=
    fun slot own => agree slot (List.mem_flatMap.mpr ⟨operand, referred, own⟩)
  rw [residual, residual]
  cases relation : bound.relation with
  | distance a b | coincident a b =>
      rw [relation] at each
      have first := Operand.anchor_congr rfl (each a (by simp [Relation.refs]))
      have second := Operand.anchor_congr rfl (each b (by simp [Relation.refs]))
      simp only [Relation.map, Relation.residual, first, second]
  | angle a b | parallel a b | perpendicular a b =>
      rw [relation] at each
      have first := Operand.direction_congr rfl (each a (by simp [Relation.refs]))
      have second := Operand.direction_congr rfl (each b (by simp [Relation.refs]))
      simp only [Relation.map, Relation.residual, first, second]
  | horizontal a | vertical a =>
      rw [relation] at each
      have only := Operand.direction_congr rfl (each a (by simp [Relation.refs]))
      simp only [Relation.map, Relation.residual, only]

omit [Scalar α] in
theorem Jacobian.getElem?_shift_of_ne {slot k : Nat} (apart : slot ≠ k) (change : α → α) :
    (shift values slot change)[k]? = values[k]? := by
  rw [shift, Array.getElem?_modify, if_neg apart]

/-- Moving a slot that is not read does not change a residual. -/
theorem Bound.residual_shift {bound : Bound α} {slot : Nat} (unread : slot ∉ bound.relation.reads)
    (change : α → α) :
    bound.residual (Jacobian.shift values slot change) = bound.residual values := by
  refine residual_congr fun k read => Jacobian.getElem?_shift_of_ne ?_ change
  rintro rfl
  exact unread read

end Agree

/-! ## Formulas -/

/-- A direction changes with parameters of lines only. -/
theorem Operand.mem_read_of_directionJet {operand : Operand} {values : Array α}
    {jet : DirectionJet α} {kind : RelationKind} (directional : kind.isDirectional = true)
    (known : operand.directionJet values = some jet) {change : DirectionPartial α}
    (listed : change ∈ jet.partials) : change.slot ∈ operand.read kind := by
  obtain ⟨shape, offset⟩ := operand
  cases shape with
  | line =>
      simp only [directionJet, shape, Shape.ofReader] at known
      split at known
      case isTrue _ => cases known
      case isFalse _ =>
        cases known
        simp only [List.mem_cons, List.not_mem_nil, or_false] at listed
        simp only [read, ShapeKind.read, directional, if_true]
        rcases listed with rfl | rfl | rfl | rfl <;> simp
  | point | circle | arc =>
      cases known
      cases listed

/-- What is listed for two directions is listed for one of them. -/
theorem Operand.exists_read_of_directionJets {a b : Operand} {values : Array α}
    {u v : DirectionJet α} {kind : RelationKind} (directional : kind.isDirectional = true)
    (first : a.directionJet values = some u) (second : b.directionJet values = some v)
    {f g : DirectionPartial α → α} {slot : Nat}
    (listed : slot ∈ (u.partials.map (fun change => (change.slot, f change)) ++ v.partials.map
      (fun change => (change.slot, g change))).map Prod.fst) :
    ∃ operand ∈ [a, b], slot ∈ operand.read kind := by
  rw [List.map_append, List.mem_append, List.map_map, List.map_map] at listed
  rcases listed with left | right
  · obtain ⟨change, member, rfl⟩ := List.mem_map.mp left
    exact ⟨a, by simp, mem_read_of_directionJet directional first member⟩
  · obtain ⟨change, member, rfl⟩ := List.mem_map.mp right
    exact ⟨b, by simp, mem_read_of_directionJet directional second member⟩

theorem Operand.exists_read_of_separationPartials {a b : Operand} {values : Array α}
    {partials : Partials α} {kind : RelationKind} (located : kind.isDirectional = false)
    (known : a.separationPartials values b = some partials) {slot : Nat}
    (listed : slot ∈ partials.map Prod.fst) : ∃ operand ∈ [a, b], slot ∈ operand.read kind := by
  rw [separationPartials] at known
  dsimp only at known
  split at known
  case isTrue _ => cases known
  case isFalse _ =>
    cases known
    simpa [read, ShapeKind.read, located, or_assoc] using listed

/-- **A standard formula lists derivatives for slots read only.** -/
theorem Formulas.mem_reads_of_partials {values : Array α} {relation : Relation Operand}
    {partials : Partials α} (known : Formulas.partials values relation = some partials)
    {slot : Nat} (listed : slot ∈ partials.map Prod.fst) : slot ∈ relation.reads := by
  rw [Relation.reads, List.mem_flatMap]
  cases relation with
  | distance a b | coincident a b =>
      exact Operand.exists_read_of_separationPartials rfl known listed
  | horizontal a | vertical a =>
      obtain ⟨jet, turns, same⟩ := Option.bind_eq_some_iff.mp known
      cases same
      rw [List.map_map] at listed
      obtain ⟨change, member, rfl⟩ := List.mem_map.mp listed
      exact ⟨a, by simp [Relation.refs], Operand.mem_read_of_directionJet rfl turns member⟩
  | perpendicular a b =>
      obtain ⟨u, first, rest⟩ := Option.bind_eq_some_iff.mp known
      obtain ⟨v, second, same⟩ := Option.bind_eq_some_iff.mp rest
      cases same
      exact Operand.exists_read_of_directionJets rfl first second listed
  | parallel a b =>
      obtain ⟨u, first, rest⟩ := Option.bind_eq_some_iff.mp known
      obtain ⟨v, second, same⟩ := Option.bind_eq_some_iff.mp rest
      dsimp only at same
      split at same
      case isTrue _ => cases same
      case isFalse _ =>
        cases same
        exact Operand.exists_read_of_directionJets rfl first second listed
  | angle a b => cases known

/-- The standard formula of a kind that is not the angle's lists the partial derivatives of the
relation. -/
theorem Formulas.apply_of_standard {values : Array α} {bound : Bound α} {formula : Formula α}
    (known : Formulas.standard bound.kind = some formula) :
    formula values bound = Formulas.partials values bound.relation := by
  revert known
  cases bound.kind <;> rintro ⟨⟩ <;> rfl

namespace Jacobian

variable {values : Array α} {bound : Bound α} {partials : Partials α}

/-- With the standard formulas, a row by formula comes from the partial derivatives of its
relation. -/
theorem partials_of_source {mode : DerivativeMode}
    (filled : source mode .standard values bound = .formula partials) :
    Formulas.partials values bound.relation = some partials := by
  unfold source at filled
  split at filled
  case isTrue _ => cases filled
  case isFalse _ =>
    cases mode with
    | forward | central => cases filled
    | analytic =>
        dsimp only at filled
        split at filled
        case h_1 _ => cases filled
        case h_2 formula known =>
          rw [Formulas.apply_of_standard known] at filled
          split at filled
          case h_1 listed same =>
            cases filled
            exact same
          case h_2 _ => cases filled

/-- In the other direction, a relation with partial derivatives and an unknown has its row filled by
formula. -/
theorem source_of_partials (dependent : bound.columns.isEmpty = false)
    (known : Formulas.partials values bound.relation = some partials) :
    source .analytic .standard values bound = .formula partials := by
  cases formula : Formulas.standard (α := α) bound.kind with
  | none =>
      -- Only the angle has no formula, and it has no partial derivatives either.
      rw [Bound.kind] at formula
      cases relation : bound.relation with
      | angle a b =>
          rw [relation] at known
          cases known
      | _ =>
          rw [relation] at formula
          cases formula
  | some formula =>
      have listed : _ = some partials := (Formulas.apply_of_standard formula).trans known
      unfold source
      simp [dependent, formula, listed]

end Jacobian

end PlanarSketch
