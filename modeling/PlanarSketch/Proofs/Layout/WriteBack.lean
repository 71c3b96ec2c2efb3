import PlanarSketch.Proofs.Ledger.Distinct
import PlanarSketch.Proofs.Layout.Pinned
import PlanarSketch.Proofs.Record.Sound

/-!
# Writing values back

Writing back goes through the names of the entities that are not fixed and looks each up twice, in
the flat view and in the store. With distinct names that is going through the entities themselves
(`Entity.rewritten`), each at its place: a fixed entity stays, any other gets the parameters at its
place when they are all finite, and the first one whose parameters are not ends it
(`Layout.writeBack_eq`).

Hence what writing back does in every case: it stays within the frame of the store, it brings no
number into the store that is not finite, and it succeeds exactly when all parameters it would write
are finite. When it succeeds the entities are those read off the values.
-/

set_option autoImplicit false

namespace PlanarSketch

variable {α : Type} [Scalar α]

namespace Entity

/-- Placed entities with the parameters that given values have at their places, up to the first that
is not fixed and would get a parameter that is not finite. -/
def rewritten (values : Array α) : List (Nat × Entity α) → Except (Error α) Unit × List (Entity α)
  | [] => (.ok (), [])
  | place :: rest =>
    if place.2.fixed then ((rewritten values rest).1, place.2 :: (rewritten values rest).2)
    else if (readAt values place).isFinite then
      ((rewritten values rest).1, readAt values place :: (rewritten values rest).2)
    else
      (.error (.parameterNotFinite (readAt values place).parameters), place.2 :: rest.map Prod.snd)

/-! ## What is rewritten -/

theorem framed_rewritten (values : Array α) (places : List (Nat × Entity α)) :
    List.Forall₂ Entity.Framed (places.map Prod.snd) (rewritten values places).2 := by
  induction places with
  | nil => exact .nil
  | cons place rest ih =>
      rw [rewritten, List.map_cons]
      split
      case isTrue fixed => exact .cons (.refl _) ih
      case isFalse free =>
        split
        case isTrue finite =>
          exact .cons (.reshape (Bool.eq_false_iff.mpr free) (kind_readAt values place)) ih
        case isFalse _ => exact List.forall₂_same.mpr fun entity _ => .refl entity

theorem isFinite_rewritten (values : Array α) {places : List (Nat × Entity α)}
    (finite : ∀ place ∈ places, place.2.isFinite = true) :
    ∀ entity ∈ (rewritten values places).2, entity.isFinite = true := by
  induction places with
  | nil =>
      intro entity member
      cases member
  | cons place rest ih =>
      have here := finite place List.mem_cons_self
      have later := ih fun other member => finite other (List.mem_cons_of_mem _ member)
      rw [rewritten]
      split
      case isTrue _ => exact List.forall_mem_cons.mpr ⟨here, later⟩
      case isFalse _ =>
        split
        case isTrue written => exact List.forall_mem_cons.mpr ⟨written, later⟩
        case isFalse _ =>
          refine List.forall_mem_cons.mpr ⟨here, ?_⟩
          intro entity member
          obtain ⟨other, among, rfl⟩ := List.mem_map.mp member
          exact finite other (List.mem_cons_of_mem _ among)

theorem rewritten_error {values : Array α} {places : List (Nat × Entity α)} {error : Error α}
    (failed : (rewritten values places).1 = .error error) :
    ∃ place ∈ places, place.2.fixed = false ∧ (readAt values place).isFinite = false ∧
      error = .parameterNotFinite (readAt values place).parameters := by
  induction places with
  | nil => cases failed
  | cons place rest ih =>
      have onward : (rewritten values rest).1 = .error error → ∃ other ∈ place :: rest,
          other.2.fixed = false ∧ (readAt values other).isFinite = false ∧
            error = .parameterNotFinite (readAt values other).parameters := by
        intro failed
        obtain ⟨other, member, found⟩ := ih failed
        exact ⟨other, List.mem_cons_of_mem place member, found⟩
      rw [rewritten] at failed
      split at failed
      case isTrue _ => exact onward failed
      case isFalse free =>
        split at failed
        case isTrue _ => exact onward failed
        case isFalse unbounded =>
          cases failed
          exact ⟨place, List.mem_cons_self, Bool.eq_false_iff.mpr free,
            Bool.eq_false_iff.mpr unbounded, rfl⟩

/-- Rewriting that succeeds reads every entity off the values, when fixed ones are read as they
are. -/
theorem rewritten_ok {values : Array α} {places : List (Nat × Entity α)}
    (pinned : ∀ place ∈ places, place.2.fixed = true → readAt values place = place.2)
    (written : (rewritten values places).1 = .ok ()) :
    (rewritten values places).2 = places.map (readAt values) ∧
      ∀ place ∈ places, place.2.fixed = false → (readAt values place).isFinite = true := by
  induction places with
  | nil => exact ⟨rfl, fun _ member => nomatch member⟩
  | cons place rest ih =>
      have ih := ih fun other member => pinned other (List.mem_cons_of_mem _ member)
      rw [rewritten] at written ⊢
      split at written
      case isTrue fixed =>
        obtain ⟨read, finite⟩ := ih written
        rw [if_pos fixed, List.map_cons, pinned place List.mem_cons_self fixed, read]
        refine ⟨rfl, List.forall_mem_cons.mpr ⟨?_, finite⟩⟩
        intro free
        rw [fixed] at free
        cases free
      case isFalse free =>
        split at written
        case isTrue here =>
          obtain ⟨read, finite⟩ := ih written
          rw [if_neg free, if_pos here, List.map_cons, read]
          exact ⟨rfl, List.forall_mem_cons.mpr ⟨fun _ => here, finite⟩⟩
        case isFalse _ => cases written

end Entity

namespace Layout

/-! ## Writing back by name -/

/-- A shape that is read is of its kind, so only parameters that are not finite can be refused. -/
theorem check_readAt (values : Array α) (place : Nat × Entity α) :
    Shape.check place.2.kind (Entity.readAt values place).parameters =
      if (Entity.readAt values place).isFinite then .ok (Entity.readAt values place).shape
      else .error (.parameterNotFinite (Entity.readAt values place).parameters) := by
  have listed := Shape.ofList?_toList (Entity.readAt values place).shape
  have kind : (Entity.readAt values place).shape.kind = place.2.kind :=
    Entity.kind_readAt values place
  rw [kind] at listed
  rw [Shape.check, Entity.parameters, listed, Entity.isFinite, Entity.parameters]

omit [Scalar α] in
theorem reshape_middle {before after : List (Entity α)} {entity : Entity α}
    (constraints : List (Constraint α)) (distinct : Ledger.Distinct (before ++ entity :: after))
    (free : entity.fixed = false) (shape : ShapeKind → Except (Error α) (Shape α)) :
    Store.reshape { entities := before ++ entity :: after, constraints } entity.name shape =
      (shape entity.kind).map fun shape =>
        (true, { entities := before ++ { entity with shape } :: after, constraints }) := by
  have found : Ledger.find? entity.name (before ++ entity :: after) = some entity :=
    Ledger.find?_of_mem distinct (by simp)
  have changed (shape : Shape α) : Ledger.modify entity.name (fun entity => { entity with shape })
      (before ++ entity :: after) = before ++ { entity with shape } :: after :=
    Ledger.modify_middle _ distinct
  rw [Store.reshape, Store.entity?, found]
  dsimp only
  rw [if_neg (Bool.eq_false_iff.mp free)]
  cases shape entity.kind with
  | error _ => rfl
  | ok shape =>
      rw [Except.map, ← changed shape]
      rfl

theorem writeBack_append {layout : Layout α} (values : Array α) (constraints : List (Constraint α))
    (before after : List (Entity α)) (offset : Nat)
    (found : ∀ place ∈ Entity.placed offset after,
      Ledger.find? place.2.name layout.blocks = some (Entity.block place))
    (distinct : Ledger.Distinct (before ++ after)) :
    layout.writeBack values ((after.filter fun entity => !entity.fixed).map Entity.name)
        { entities := before ++ after, constraints } =
      ((Entity.rewritten values (Entity.placed offset after)).1,
        { entities := before ++ (Entity.rewritten values (Entity.placed offset after)).2,
          constraints }) := by
  -- On the entities still to be written; those already done come before them with names of their
  -- own.
  induction after generalizing before offset with
  | nil => rfl
  | cons entity rest ih =>
      have later := fun place member => found place (List.mem_cons_of_mem _ member)
      cases fixed : entity.fixed with
      | true =>
          have onward :=
            ih (before ++ [entity]) (offset + entity.arity) later (by simpa using distinct)
          simpa [Entity.placed, Entity.rewritten, fixed] using onward
      | false =>
          have looked : layout.parametersOf? values entity.name =
              some (Entity.readAt values (offset, entity)).parameters := by
            rw [Layout.parametersOf?, found (offset, entity) List.mem_cons_self]
            rfl
          have named : ((entity :: rest).filter fun entity => !entity.fixed).map Entity.name =
              entity.name :: (rest.filter fun entity => !entity.fixed).map Entity.name := by
            simp [fixed]
          have loose : ¬ (offset, entity).2.fixed = true := Bool.eq_false_iff.mp fixed
          have checked := check_readAt values (offset, entity)
          have reshaped := reshape_middle constraints distinct fixed fun kind =>
            Shape.check kind (Entity.readAt values (offset, entity)).parameters
          dsimp only at checked reshaped
          rw [checked] at reshaped
          rw [named, writeBack, looked, Entity.placed, Entity.rewritten, if_neg loose]
          dsimp only
          rw [reshaped]
          cases finite : (Entity.readAt values (offset, entity)).isFinite with
          | false => simp [Except.map, Entity.map_snd_placed]
          | true =>
              have same : Ledger.Distinct
                  (before ++ [Entity.readAt values (offset, entity)] ++ rest) := by
                rw [Ledger.Distinct, Ledger.names, List.map_append, List.map_cons] at distinct
                rw [Ledger.Distinct, Ledger.names, ← List.append_cons, List.map_append,
                  List.map_cons]
                exact distinct
              have onward := ih _ (offset + entity.arity) later same
              rw [← List.append_cons] at onward
              rw [if_pos rfl, if_pos rfl, Except.map]
              dsimp only
              exact onward.trans (by rw [← List.append_cons])

/-- **Writing back by name rewrites the entities in their places.** -/
theorem writeBack_eq {layout : Layout α} {store : Store α}
    (blocks : layout.blocks = Block.ofEntities 0 store.entities)
    (distinct : Ledger.Distinct store.entities) (values : Array α) :
    layout.writeBack values layout.freeNames store =
      ((Entity.rewritten values (Entity.placed 0 store.entities)).1,
        { store with
          entities := (Entity.rewritten values (Entity.placed 0 store.entities)).2 }) := by
  rw [freeNames_eq blocks]
  refine writeBack_append values store.constraints [] store.entities 0 ?_ distinct
  intro place member
  rw [blocks]
  exact Entity.find?_block distinct member

end Layout

end PlanarSketch
