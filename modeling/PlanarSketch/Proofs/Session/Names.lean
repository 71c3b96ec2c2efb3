import PlanarSketch.Proofs.Record.Loaded
import PlanarSketch.Proofs.Record.Restored
import PlanarSketch.Proofs.Session.Counters
import PlanarSketch.Proofs.Sketch.Numbered

/-!
# Names handed out in a session

A record that is added without a name gets the next name with the stem of its kind. That name
belongs to no record, so adding puts exactly one record behind the others and replaces none
(`Session.addShape_unnamed`, `Session.constrain_unnamed`).

The numbers of a stem only go up, and different stems or numbers make different names. So a sketch
hands out no name twice, whatever is done to it, whether operations fail and whatever becomes of the
records that had the names (`Session.afterAll_nextName`).
-/

set_option autoImplicit false

namespace PlanarSketch

/-! ## Names of what is made from parts -/

theorem Entity.name_of_ofParts {name : Text} {kind fixed : Json}
    {parameters : Except (Error Float) (List Json)} {entity : Entity Float}
    (built : Entity.ofParts (.str name) kind parameters fixed = .ok entity) :
    entity.name = name := by
  unfold Entity.ofParts at built
  dsimp only at built
  split at built
  · cases built
  · split at built
    · cases built
    · obtain ⟨_, _, built⟩ := ok_of_bind built
      obtain ⟨_, _, built⟩ := ok_of_bind built
      cases built
      rfl

theorem Constraint.name_of_ofParts {parts : Constraint.Parts} {name : Text}
    {constraint : Constraint Float} (named : parts.name = .str name)
    (built : Constraint.ofParts parts = .ok constraint) :
    constraint.name = name := by
  unfold Constraint.ofParts at built
  rw [named] at built
  dsimp only at built
  split at built
  · cases built
  · split at built
    · cases built
    · obtain ⟨_, _, built⟩ := ok_of_bind built
      split at built
      · cases built
      · obtain ⟨_, _, built⟩ := ok_of_bind built
        obtain ⟨_, _, built⟩ := ok_of_bind built
        cases built
        rfl

namespace Session

open PlanarSketch.Action

variable {session after : Session} {wanted answer : Json}

/-! ## Adding without a name -/

theorem isFree_nextName (session : Session) (stem : Text) :
    session.sketch.IsFree (session.nextName stem) :=
  Sketch.isFree_iff.mpr (Sketch.search_nextNumber session.sketch stem).free

/-- **A shape that is added without a name comes behind the other entities, under the next
name.** -/
theorem addShape_unnamed {kind : ShapeKind} {parameters : List Json} {fixed : Json}
    (unnamed : wanted.truthy = false)
    (added : perform (addShape kind parameters fixed wanted) session = (.ok answer, after)) :
    ∃ entity : Entity Float, entity.name = session.nextName kind.stem ∧ answer = .str entity.name ∧
      after.sketch.store =
        { session.sketch.store with entities := session.sketch.store.entities ++ [entity] } := by
  rw [addShape, perform_bind_ok (perform_nameOr_unnamed unnamed _ session)] at added
  obtain ⟨entity, _, made, done⟩ := ok_of_perform_bind added
  obtain ⟨built, rfl⟩ := Prod.mk.inj made
  cases done
  have name := Entity.name_of_ofParts built
  have fresh : Named.name entity ∉ Ledger.names session.sketch.store.entities := by
    rw [show Named.name entity = session.nextName kind.stem from name]
    exact (session.isFree_nextName _).1
  refine ⟨entity, name, by rw [name], ?_⟩
  exact congrArg (fun entities => { session.sketch.store with entities })
    (Ledger.file_of_notMem fresh)

theorem ok_of_addConstraint {constraint : Constraint Float}
    (filed : perform (addConstraint constraint) session = (.ok (), after)) :
    ∃ store, session.sketch.store.addConstraint constraint = .ok store ∧
      { session with sketch := { session.sketch with store } } = after := by
  rw [addConstraint, perform_bind_ok (perform_store session)] at filed
  obtain ⟨store, _, let_in, done⟩ := ok_of_perform_bind filed
  obtain ⟨accepted, rfl⟩ := Prod.mk.inj let_in
  cases done
  exact ⟨store, accepted, rfl⟩

/-- **A relation that is added without a name comes behind the other constraints, under the next
name.** -/
theorem constrain_unnamed {kind : RelationKind} {references : List Json} {value tolerance : Json}
    (unnamed : wanted.truthy = false)
    (added : perform (constrain kind references value tolerance wanted) session =
      (.ok answer, after)) :
    ∃ constraint : Constraint Float, constraint.name = session.nextName kind.stem ∧
      answer = .str constraint.name ∧
      after.sketch.store = { session.sketch.store with
        constraints := session.sketch.store.constraints ++ [constraint] } := by
  rw [constrain, perform_bind_ok (perform_nameOr_unnamed unnamed _ session)] at added
  obtain ⟨constraint, _, made, filing⟩ := ok_of_perform_bind added
  obtain ⟨built, rfl⟩ := Prod.mk.inj made
  obtain ⟨_, _, filed, done⟩ := ok_of_perform_bind filing
  cases done
  obtain ⟨store, accepted, rfl⟩ := ok_of_addConstraint filed
  obtain ⟨_, rfl⟩ := Store.addConstraint_eq_ok_iff.mp accepted
  have name := Constraint.name_of_ofParts rfl built
  have fresh : Named.name constraint ∉ Ledger.names session.sketch.store.constraints := by
    rw [show Named.name constraint = session.nextName kind.stem from name]
    exact (session.isFree_nextName _).2
  refine ⟨constraint, name, by rw [name], ?_⟩
  exact congrArg (fun constraints => { session.sketch.store with constraints })
    (Ledger.file_of_notMem fresh)

/-! ## Names handed out -/

theorem Operation.isStem_of_stem? {operation : Operation} {stem : Text}
    (draws : operation.stem? = some stem) : stem.IsStem := by
  rcases Operation.cases_of_stem? draws with
    ⟨kind, _, _, _, _, _, rfl⟩ | ⟨figure, _, _, _, _, _, _, rfl⟩ | ⟨kind, _, _, _, _, _, _, rfl⟩
  · exact kind.isStem
  · exact figure.kind.isStem
  · exact kind.isStem

/-- The name an operation draws, if it draws one. -/
def Operation.drawn (operation : Operation) (session : Session) : Option Text :=
  operation.stem?.map session.nextName

/-- What an operation makes of a session and of the names that its sketch has handed out, the last
one first. A sketch that is opened has handed out none. -/
def handOut (state : Session × List Text) (operation : Operation) : Session × List Text :=
  let (answer, after) := perform operation.action state.1
  (after, if operation.opens && answer.isOk then [] else
    (operation.drawn state.1).toList ++ state.2)

/-- The names that the sketch at work has handed out when operations are done, the last one
first. -/
def handedOut (operations : List Operation) : List Text := (operations.foldl handOut ({}, [])).2

/-- The names are different, and numbered no further than the sketch has counted. -/
structure Counted (sketch : Sketch) (names : List Text) : Prop where
  nodup : names.Nodup
  counted : ∀ name ∈ names, ∃ (stem : Text) (number : Nat), stem.IsStem ∧
    name = Sketch.numberedName stem number ∧ number ≤ sketch.lastNumber stem

theorem Counted.congr {sketch sketch' : Sketch} {names : List Text} (counted : Counted sketch names)
    (same : sketch'.counters = sketch.counters) : Counted sketch' names := by
  refine ⟨counted.nodup, fun name member => ?_⟩
  obtain ⟨stem, number, isStem, named, within⟩ := counted.counted name member
  refine ⟨stem, number, isStem, named, within.trans_eq ?_⟩
  rw [Sketch.lastNumber, Sketch.lastNumber, same]

/-- A name that is drawn differs from those handed out before. -/
theorem Counted.draw {names : List Text} (counted : Counted session.sketch names) {stem : Text}
    (isStem : stem.IsStem) :
    Counted (session.drawing stem).sketch (session.nextName stem :: names) := by
  constructor
  · refine List.nodup_cons.mpr ⟨fun member => ?_, counted.nodup⟩
    obtain ⟨stem', number, isStem', named, within⟩ := counted.counted _ member
    obtain ⟨rfl, rfl⟩ := Sketch.numberedName_inj isStem isStem' named
    exact absurd (Sketch.lt_nextNumber session.sketch stem) (Nat.not_lt.mpr within)
  · intro name member
    rcases List.mem_cons.mp member with rfl | earlier
    · exact ⟨stem, _, isStem, rfl, (Sketch.lastNumber_setNumber_self _ stem _).ge⟩
    · obtain ⟨stem', number, isStem', named, within⟩ := counted.counted name earlier
      exact ⟨stem', number, isStem', named,
        within.trans (Sketch.le_lastNumber_setNumber _ stem stem')⟩

/-- **One operation, whether it fails or not, keeps the names handed out different.** -/
theorem Reachable.counted_handOut {names : List Text} (reached : Reachable session)
    (counted : Counted session.sketch names) (operation : Operation) :
    Counted (handOut (session, names) operation).1.sketch
      (handOut (session, names) operation).2 := by
  dsimp only [handOut]
  cases opens : operation.opens with
  | true =>
      have restarts := Operation.restartsNumbers opens session
      have undrawn : operation.drawn session = none := by
        cases operation <;> first | rfl | cases opens
      rcases done : perform operation.action session with ⟨_ | answer, after⟩
        <;> rw [done] at restarts
      · rw [undrawn]
        exact counted.congr restarts
      · exact ⟨List.nodup_nil, nofun⟩
  | false =>
      cases draws : operation.stem? with
      | none =>
          rw [Operation.drawn, draws]
          exact counted.congr (reached.counters_of_stem?_eq_none opens draws)
      | some stem =>
          rw [Operation.drawn, draws]
          exact (counted.draw (Operation.isStem_of_stem? draws)).congr
            (Operation.counters_of_stem? draws session)

/-- The history follows the session. -/
theorem handOut_fst (operations : List Operation) (state : Session × List Text) :
    (operations.foldl handOut state).1 = afterAll operations state.1 := by
  induction operations generalizing state with
  | nil => rfl
  | cons operation rest ih => exact ih _

/-- **Whatever is done, the names handed out are different.** -/
theorem Reachable.counted_foldl (operations : List Operation) {names : List Text}
    (reached : Reachable session) (counted : Counted session.sketch names) :
    Counted (operations.foldl handOut (session, names)).1.sketch
      (operations.foldl handOut (session, names)).2 := by
  induction operations generalizing session names with
  | nil => exact counted
  | cons operation rest ih =>
      exact ih (reached.step operation) (reached.counted_handOut counted operation)

theorem counted_handedOut (operations : List Operation) :
    Counted (afterAll operations {}).sketch (handedOut operations) := by
  have counted := Reachable.fresh.counted_foldl operations ⟨List.nodup_nil, nofun⟩
  rw [handOut_fst] at counted
  exact counted

/-- A name that is drawn is free, and was not handed out before. -/
theorem fresh_of_drawn {operations : List Operation} {operation : Operation} {name : Text}
    (drawn : operation.drawn (afterAll operations {}) = some name) :
    (afterAll operations {}).sketch.IsFree name ∧ name ∉ handedOut operations := by
  obtain ⟨stem, draws, rfl⟩ := Option.map_eq_some_iff.mp drawn
  have counted := (counted_handedOut operations).draw (Operation.isStem_of_stem? draws)
  exact ⟨isFree_nextName _ stem, (List.nodup_cons.mp counted.nodup).1⟩

/-- **Names made up are free and different.** Whatever operations came before, the search for the
next number of a stem ends, and its name is neither that of an entity nor that of a constraint. So
what is added without a name comes behind the others and takes the place of none, and a sketch hands
out no name twice. -/
theorem afterAll_nextName (operations : List Operation) :
    let session := afterAll operations {}
    (∀ stem, ∃ number,
      Sketch.Search session.sketch stem (session.sketch.lastNumber stem + 1) number ∧
      perform (freshName stem) session = (.ok (Sketch.numberedName stem number),
        { session with sketch := session.sketch.setNumber stem number }) ∧
      session.sketch.IsFree (Sketch.numberedName stem number)) ∧
    (∀ kind parameters fixed wanted answer after, wanted.truthy = false →
      perform (addShape kind parameters fixed wanted) session = (.ok answer, after) →
      ∃ entity : Entity Float, answer = .str entity.name ∧
        (Operation.addShape kind parameters fixed wanted).drawn session = some entity.name ∧
        after.sketch.store =
          { session.sketch.store with entities := session.sketch.store.entities ++ [entity] }) ∧
    (∀ kind references value tolerance wanted answer after, wanted.truthy = false →
      perform (constrain kind references value tolerance wanted) session = (.ok answer, after) →
      ∃ constraint : Constraint Float, answer = .str constraint.name ∧
        (Operation.constrain kind references value tolerance wanted).drawn session =
          some constraint.name ∧
        after.sketch.store = { session.sketch.store with
          constraints := session.sketch.store.constraints ++ [constraint] }) ∧
    (∀ operation name, Operation.drawn operation session = some name →
      session.sketch.IsFree name ∧ name ∉ handedOut operations) ∧
    (handedOut operations).Nodup := by
  intro session
  refine ⟨fun stem => ?_, ?_, ?_, fun _ _ => fresh_of_drawn, (counted_handedOut operations).nodup⟩
  · refine ⟨_, Sketch.search_nextNumber _ stem, perform_freshName stem session, ?_⟩
    exact session.isFree_nextName stem
  · intro kind parameters fixed wanted answer after unnamed added
    obtain ⟨entity, name, answered, appended⟩ := addShape_unnamed unnamed added
    refine ⟨entity, answered, ?_, appended⟩
    simp [Operation.drawn, Operation.stem?, unnamed, name]
  · intro kind references value tolerance wanted answer after unnamed added
    obtain ⟨constraint, name, answered, appended⟩ := constrain_unnamed unnamed added
    refine ⟨constraint, answered, ?_, appended⟩
    simp [Operation.drawn, Operation.stem?, unnamed, name]

/-- Names are asked for that would be made up, one is made up and removed, and one is made up for a
point that cannot be. -/
def contended : List Operation := [
  .addShape .point [.float 0.0, .float 0.0] (.bool false) (.str "Point2"),
  .addShape .point [.float 1.0, .float 0.0] (.bool false) .null,
  .addShape .point [.float 1.0] (.bool false) .null,
  .remove (.str "Point1"),
  .addShape .point [.float 0.0, .float 1.0] (.bool false) (.str "Distance1"),
  .constrain .distance [.str "Point2", .str "Distance1"] (.float 1.0) Constraint.defaultTolerance
    (.str "Point4")]

/-- The first four points are spoken for: one is there, one was removed, one failed, and one is a
constraint. -/
theorem afterAll_contended_nextName :
    handedOut contended = ["Point3", "Point1"] ∧
    (∃ (entity : Entity Float) (after : Session), entity.name = "Point5" ∧
      perform (addShape .point [.float 1.0, .float 1.0] (.bool false) .null)
        (afterAll contended {}) = (.ok (.str entity.name), after) ∧
      after.sketch.store.entities = (afterAll contended {}).sketch.store.entities ++ [entity]) ∧
    (∃ (constraint : Constraint Float) (after : Session), constraint.name = "Distance2" ∧
      perform (constrain .distance [.str "Distance1", .str "Point2"] (.float 2.0)
          Constraint.defaultTolerance .null) (afterAll contended {}) =
        (.ok (.str constraint.name), after) ∧
      after.sketch.store.constraints =
        (afterAll contended {}).sketch.store.constraints ++ [constraint]) := by
  obtain ⟨_, shapes, relations, _, _⟩ := afterAll_nextName contended
  refine ⟨by decide +kernel, ?_, ?_⟩
  · have named : ((perform (addShape .point [.float 1.0, .float 1.0] (.bool false) .null)
        (afterAll contended {})).1.bind Json.toName?).toOption =
          some (some (Text.ofString "Point5")) := by decide +kernel
    rcases done : perform (addShape .point [.float 1.0, .float 1.0] (.bool false) .null)
      (afterAll contended {}) with ⟨_ | answer, after⟩ <;> rw [done] at named
    · cases named
    · obtain ⟨entity, rfl, _, appended⟩ := shapes _ _ _ _ _ _ rfl done
      exact ⟨entity, after, Option.some.inj (Option.some.inj named), rfl, by rw [appended]⟩
  · have named : ((perform (constrain .distance [.str "Distance1", .str "Point2"] (.float 2.0)
        Constraint.defaultTolerance .null) (afterAll contended {})).1.bind Json.toName?).toOption =
          some (some (Text.ofString "Distance2")) := by decide +kernel
    rcases done : perform (constrain .distance [.str "Distance1", .str "Point2"] (.float 2.0)
      Constraint.defaultTolerance .null) (afterAll contended {}) with ⟨_ | answer, after⟩ <;>
        rw [done] at named
    · cases named
    · obtain ⟨constraint, rfl, _, appended⟩ := relations _ _ _ _ _ _ _ rfl done
      exact ⟨constraint, after, Option.some.inj (Option.some.inj named), rfl, by rw [appended]⟩

end Session

end PlanarSketch
