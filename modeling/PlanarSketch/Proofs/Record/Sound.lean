import PlanarSketch.Proofs.Checked
import PlanarSketch.Record.Store

/-!
# Records that the checks let through

An entity is sound when it has a name and its parameters are finite, a constraint when it has a
name, a target where its relation needs one, no target that is not finite, and a positive tolerance.
Building either from values, or reading it from a record, gives a sound one or an error.
-/

set_option autoImplicit false

namespace PlanarSketch

/-- Whether all parameters of an entity are finite. -/
def Entity.isFinite {α : Type} [Scalar α] (entity : Entity α) : Bool :=
  entity.parameters.all Scalar.isFinite

/-- An entity that the checks let through. -/
structure Entity.Sound (entity : Entity Float) : Prop where
  name : entity.name.isEmpty = false
  finite : entity.isFinite = true

/-- A constraint that the checks let through. -/
structure Constraint.Sound (constraint : Constraint Float) : Prop where
  name : constraint.name.isEmpty = false
  value : constraint.kind.needsValue = true → constraint.value.isSome = true
  finite : ∀ x, constraint.value = some x → x.isFinite = true
  tolerance : (0.0 : Float) < constraint.tolerance

/-! ## Shapes -/

theorem Shape.ofList?_some {α : Type} {kind : ShapeKind} {parameters : List α} {shape : Shape α}
    (listed : ofList? kind parameters = some shape) :
    shape.kind = kind ∧ shape.toList = parameters := by
  unfold ofList? at listed
  split at listed <;> cases listed <;> exact ⟨rfl, rfl⟩

theorem Shape.check_ok {α : Type} [Scalar α] {kind : ShapeKind} {parameters : List α}
    {shape : Shape α} (checked : Shape.check kind parameters = .ok shape) :
    shape.kind = kind ∧ shape.toList.all Scalar.isFinite = true := by
  rw [Shape.check] at checked
  split at checked
  case h_1 _ => cases checked
  case h_2 read listed =>
    split at checked
    case isFalse _ => cases checked
    case isTrue finite =>
      cases checked
      obtain ⟨kind, same⟩ := Shape.ofList?_some listed
      rw [same]
      exact ⟨kind, finite⟩

theorem Shape.ofItems_ok {kind : ShapeKind} {items : List Json} {shape : Shape Float}
    (built : Shape.ofItems kind items = .ok shape) :
    shape.kind = kind ∧ shape.toList.all Scalar.isFinite = true := by
  rw [Shape.ofItems] at built
  split at built
  case isTrue _ => cases built
  case isFalse _ =>
    obtain ⟨parameters, _, checked⟩ := ok_of_bind built
    exact Shape.check_ok checked

theorem Shape.ofValue_ok {kind : ShapeKind} {parameters : Json} {shape : Shape Float}
    (built : Shape.ofValue parameters kind = .ok shape) :
    shape.kind = kind ∧ shape.toList.all Scalar.isFinite = true := by
  obtain ⟨items, _, shaped⟩ := ok_of_bind built
  exact Shape.ofItems_ok shaped

/-! ## Entities -/

/-- An entity built from values is sound. -/
theorem Entity.sound_ofParts {name kind fixed : Json}
    {parameters : Except (Error Float) (List Json)} {entity : Entity Float}
    (built : Entity.ofParts name kind parameters fixed = .ok entity) :
    entity.Sound := by
  unfold Entity.ofParts at built
  split at built
  case h_2 _ => cases built
  case h_1 text =>
    split at built
    case isTrue _ => cases built
    case isFalse nonempty =>
      split at built
      case h_1 _ => cases built
      case h_2 kind _ =>
        obtain ⟨items, _, rest⟩ := ok_of_bind built
        obtain ⟨shape, shaped, done⟩ := ok_of_bind rest
        cases done
        exact ⟨Bool.eq_false_iff.mpr nonempty, (Shape.ofItems_ok shaped).2⟩

theorem Entity.sound_ofJson {record : Json} {entity : Entity Float}
    (read : Entity.ofJson record = .ok entity) : entity.Sound := by
  have read : Entity.ofRecord record = .ok entity := by
    unfold Entity.ofJson at read
    split at read
    · cases read
    · exact read
  obtain ⟨fields, _, read⟩ := ok_of_bind read
  obtain ⟨name, _, read⟩ := ok_of_bind read
  obtain ⟨kind, _, read⟩ := ok_of_bind read
  obtain ⟨parameters, _, read⟩ := ok_of_bind read
  obtain ⟨items, _, built⟩ := ok_of_bind read
  exact Entity.sound_ofParts built

/-! ## Constraints -/

theorem Relation.kind_of_ofRefs? {ρ : Type} {kind : RelationKind} {refs : List ρ}
    {relation : Relation ρ} (listed : ofRefs? kind refs = some relation) :
    relation.kind = kind := by
  unfold ofRefs? at listed
  split at listed <;> cases listed <;> rfl

/-- A target that is let through is finite, and there is one where the relation needs it. -/
theorem Constraint.checkValue_ok {name : Text} {kind : RelationKind} {value : Json}
    {target : Option Float} (checked : Constraint.checkValue name kind value = .ok target) :
    (kind.needsValue = true → target.isSome = true) ∧ ∀ x, target = some x → x.isFinite = true := by
  unfold Constraint.checkValue at checked
  split at checked
  · split at checked
    case isTrue _ => cases checked
    case isFalse needless =>
      cases checked
      exact ⟨fun needed => absurd needed needless, fun _ none => nomatch none⟩
  · obtain ⟨x, _, rest⟩ := ok_of_bind checked
    split at rest
    case isFalse _ => cases rest
    case isTrue finite =>
      cases rest
      refine ⟨fun _ => rfl, ?_⟩
      rintro _ ⟨⟩
      exact finite

theorem Constraint.checkTolerance_ok {name : Text} {value : Json} {tolerance : Float}
    (checked : Constraint.checkTolerance name value = .ok tolerance) :
    (0.0 : Float) < tolerance := by
  obtain ⟨x, _, rest⟩ := ok_of_bind checked
  split at rest
  case isFalse _ => cases rest
  case isTrue positive =>
    cases rest
    exact positive

/-- A constraint built from values is sound. -/
theorem Constraint.sound_ofParts {parts : Constraint.Parts} {constraint : Constraint Float}
    (built : Constraint.ofParts parts = .ok constraint) : constraint.Sound := by
  unfold Constraint.ofParts at built
  split at built
  case h_2 _ => cases built
  case h_1 name _ =>
    split at built
    case isTrue _ => cases built
    case isFalse nonempty =>
      split at built
      case h_1 _ => cases built
      case h_2 kind _ =>
        obtain ⟨references, _, rest⟩ := ok_of_bind built
        dsimp only at rest
        split at rest
        case h_1 _ => cases rest
        case h_2 relation listed =>
          obtain ⟨value, targeted, rest⟩ := ok_of_bind rest
          obtain ⟨tolerance, tolerated, done⟩ := ok_of_bind rest
          cases done
          obtain ⟨needed, finite⟩ := Constraint.checkValue_ok targeted
          refine ⟨Bool.eq_false_iff.mpr nonempty, ?_, finite,
            Constraint.checkTolerance_ok tolerated⟩
          rw [Constraint.kind, Relation.kind_of_ofRefs? listed]
          exact needed

theorem Constraint.sound_ofJson {record : Json} {constraint : Constraint Float}
    (read : Constraint.ofJson record = .ok constraint) : constraint.Sound := by
  have read : Constraint.ofRecord record = .ok constraint := by
    unfold Constraint.ofJson at read
    split at read
    · cases read
    · exact read
  obtain ⟨fields, _, read⟩ := ok_of_bind read
  obtain ⟨name, _, read⟩ := ok_of_bind read
  obtain ⟨kind, _, read⟩ := ok_of_bind read
  obtain ⟨references, _, read⟩ := ok_of_bind read
  obtain ⟨items, _, built⟩ := ok_of_bind read
  exact Constraint.sound_ofParts built

end PlanarSketch
