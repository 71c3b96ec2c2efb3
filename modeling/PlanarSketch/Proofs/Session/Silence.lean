import PlanarSketch.Proofs.Newton.Books
import PlanarSketch.Proofs.Session.Diagnosis

/-!
# When a report draws attention to nothing

A report draws attention to what a caller should know, and its notices come from four places: the
count of freedom, the relations about directions, the end of the run, and the pivots its corrections
skipped. Each place is silent under one condition, and the four conditions together are that all is
well (`Store.AllWell`).

So a report without notices says that the run converged and that nothing about the sketch or the run
was odd, and of a solve where this is so there are no notices (`Session.notices_eq_nil_iff`). A run
may skip pivots and still converge; it is then silent only under a limit, since with a limit it
would have failed beyond it.
-/

set_option autoImplicit false

namespace PlanarSketch

variable {α : Type}

/-- The relations about directions refer to lines only. -/
def Store.Directed (store : Store α) : Prop :=
  ∀ constraint ∈ store.constraints,
    constraint.kind ∈ [.angle, .parallel, .perpendicular, .horizontal, .vertical] →
      ∀ entity ∈ store.entities, entity.name ∈ constraint.relation.refs → entity.kind = .line

/-- A store and a run of it about which there is nothing to notice: the run converged, there are no
more constraints than free parameters, directions are asked of lines only, and no correction skipped
a pivot unless there is a limit on that. -/
structure Store.AllWell (store : Store α) (settings : Settings α) (ending : Ending)
    (skipped : List Nat) : Prop where
  converged : ending = .converged
  enough : store.constraints.length ≤
    ((store.entities.filter fun entity => !entity.fixed).flatMap Entity.parameters).length
  directed : store.Directed
  pivots : (∀ count ∈ skipped, count = 0) ∨ settings.deficiencyLimit ≠ none

/-! ## What is noticed of a store -/

namespace Store

variable {store : Store α}

theorem freeParameters_eq (store : Store α) : store.freeParameters =
    ((store.entities.filter fun entity => !entity.fixed).flatMap Entity.parameters).length := by
  rw [freeParameters]
  induction store.entities.filter fun entity => !entity.fixed with
  | nil => rfl
  | cons entity rest ih =>
      rw [List.foldr_cons, List.flatMap_cons, List.length_append, ih, Entity.length_parameters]

theorem freedomNotices_eq_nil_iff : store.freedomNotices = [] ↔ store.constraints.length ≤
    ((store.entities.filter fun entity => !entity.fixed).flatMap Entity.parameters).length := by
  rw [freedomNotices, ite_eq_right_iff, ← freeParameters_eq, Freedom.isOver_iff, freedom]
  constructor
  · intro fewer
    by_contra more
    exact List.cons_ne_nil _ _ (fewer (by dsimp only; omega))
  · intro fewer more
    dsimp only at more
    omega

theorem mem_directional_iff (kind : RelationKind) :
    kind ∈ [RelationKind.angle, .parallel, .perpendicular, .horizontal, .vertical] ↔
      kind.isDirectional = true := by
  cases kind <;> decide

theorem directionNotices_eq_nil_iff (distinct : Ledger.Distinct store.entities) :
    store.directionNotices = [] ↔ store.Directed := by
  rw [directionNotices, List.flatMap_eq_nil_iff, Directed]
  refine forall₂_congr fun constraint _ => ?_
  rw [mem_directional_iff, ite_eq_right_iff]
  refine forall_congr' fun _ => ?_
  rw [List.filterMap_eq_nil_iff]
  -- Names are distinct, so looking one up finds the entity of that name.
  constructor
  · intro silent entity member referred
    have here := silent entity.name referred
    rw [show store.entity? entity.name = some entity from
      Ledger.find?_of_mem distinct member] at here
    by_contra other
    simp [Entity.isLine, other] at here
  · intro lines name referred
    cases found : store.entity? name with
    | none => rfl
    | some entity =>
        obtain ⟨member, rfl⟩ := Ledger.mem_of_find? found
        exact if_pos (decide_eq_true (lines entity member referred))

end Store

/-! ## What is noticed of a run -/

namespace Outcome

variable {outcome : Outcome α} {settings : Settings α}

theorem endingNotices_eq_nil_iff : outcome.endingNotices = [] ↔ outcome.ending = .converged := by
  rw [endingNotices]
  cases outcome.ending <;> simp

theorem deficiencyNotices_eq_nil_iff : outcome.deficiencyNotices settings = [] ↔
    outcome.deficiency = 0 ∨ settings.deficiencyLimit ≠ none := by
  rw [deficiencyNotices, ite_eq_right_iff, Option.isNone_iff_eq_none]
  constructor
  · intro silent
    by_contra odd
    rw [not_or, not_not] at odd
    exact List.cons_ne_nil _ _ (silent odd)
  · rintro (none | limited) ⟨some, unlimited⟩
    · exact absurd none some
    · exact absurd unlimited limited

end Outcome

theorem foldl_max_eq_zero_iff (counts : List Nat) (least : Nat) :
    counts.foldl max least = 0 ↔ least = 0 ∧ ∀ count ∈ counts, count = 0 := by
  induction counts generalizing least with
  | nil => simp
  | cons count rest ih =>
      rw [List.foldl_cons, ih, Nat.max_eq_zero_iff, List.forall_mem_cons, and_assoc]

namespace Newton

variable [Scalar α]

/-- A run notes no skipped pivots exactly when none of its corrections skipped any. -/
theorem deficiency_eq_zero_iff (problem : Problem α) (polls : Nat → Bool) (values : Array α) :
    (run problem polls values).deficiency = 0 ↔
      ∀ count ∈ skips problem values (run problem polls values).iterations, count = 0 := by
  obtain ⟨done, state, endsAt⟩ := run_endsAt problem polls values
  rw [endsAt.ends.deficiency endsAt.reached, foldl_max_eq_zero_iff]
  exact and_iff_right rfl

end Newton

/-! ## What is noticed of a solve -/

namespace Store

variable [Scalar α] {store : Store α}

/-- What a report has of the store and of the run. -/
theorem report_of_solve {problem : Problem α} {polls : Nat → Bool} {solved : Solved α}
    {report : Report α} (laid : Layout.ofStore store = .ok problem.layout)
    (solving : store.solve problem.settings problem.formulas polls = .ok solved)
    (reported : solved.report = .ok report) :
    let outcome := Newton.run problem polls store.parameters.toArray
    report.ending = outcome.ending ∧ report.iterations = outcome.iterations ∧
      report.notices = store.freedomNotices ++ store.directionNotices ++ outcome.endingNotices ++
        outcome.deficiencyNotices problem.settings := by
  rw [solve, laid] at solving
  simp only [bind, Except.bind] at solving
  split at solving
  · cases solving
    cases reported
  · cases solving
    cases reported
    exact ⟨rfl, rfl, rfl⟩

/-- **A report has no notices exactly when all is well.** -/
theorem notices_eq_nil_iff_allWell (problem : Problem α) {polls : Nat → Bool} {solved : Solved α}
    {report : Report α} (distinct : Ledger.Distinct store.entities)
    (laid : Layout.ofStore store = .ok problem.layout)
    (solving : store.solve problem.settings problem.formulas polls = .ok solved)
    (reported : solved.report = .ok report) :
    report.notices = [] ↔ store.AllWell problem.settings report.ending
      (Newton.skips problem store.parameters.toArray report.iterations) := by
  obtain ⟨ending, iterations, notices⟩ := report_of_solve laid solving reported
  rw [notices, ending, iterations]
  simp only [List.append_eq_nil_iff]
  rw [freedomNotices_eq_nil_iff, directionNotices_eq_nil_iff distinct,
    Outcome.endingNotices_eq_nil_iff, Outcome.deficiencyNotices_eq_nil_iff,
    Newton.deficiency_eq_zero_iff]
  constructor
  · rintro ⟨⟨⟨enough, directed⟩, converged⟩, pivots⟩
    exact ⟨converged, enough, directed, pivots⟩
  · rintro ⟨converged, enough, directed, pivots⟩
    exact ⟨⟨⟨enough, directed⟩, converged⟩, pivots⟩

end Store

namespace Session

open PlanarSketch.Action

variable {session : Session}

/-- **Silence means that all is well.** Whenever a solve from a reachable session reports, the
report has no notices exactly when all is well with the store before the solve and with the run. The
same holds of the solve of the store by itself, whatever the formulas. -/
theorem notices_eq_nil_iff (reached : Reachable session) (config : Config) (polls : Nat → Bool) :
    (∀ (report : Report Float) (after : Session),
      perform (solve config polls) session = (.ok report, after) →
        ∃ layout, Layout.ofStore session.sketch.store = .ok layout ∧
          (report.notices = [] ↔ session.sketch.store.AllWell config.settings report.ending
            (Newton.skips (session.problem layout config) session.sketch.store.parameters.toArray
              report.iterations))) ∧
    ∀ (formulas : Formulas Float) (solved : Solved Float) (report : Report Float),
      session.sketch.store.solve config.settings formulas polls = .ok solved →
        solved.report = .ok report →
          ∃ layout, Layout.ofStore session.sketch.store = .ok layout ∧
            (report.notices = [] ↔ session.sketch.store.AllWell config.settings report.ending
              (Newton.skips { layout, settings := config.settings, formulas }
                session.sketch.store.parameters.toArray report.iterations)) := by
  have distinct := reached.sound.entityNames
  constructor
  · intro report after done
    obtain ⟨layout, solved, laid, solving, _, reported, _⟩ := reached.solving_of_perform done
    exact ⟨layout, laid, Store.notices_eq_nil_iff_allWell (session.problem layout config)
      distinct laid solving reported⟩
  · intro formulas solved report solving reported
    obtain ⟨layout, laid, _⟩ := reached.solves_of_solve solving
    exact ⟨layout, laid, Store.notices_eq_nil_iff_allWell
      { layout, settings := config.settings, formulas } distinct laid solving reported⟩

/-- Two points that two constraints want at the same distance. -/
def doubled : Session :=
  afterAll [
    .addShape .point [.float 0.0, .float 0.0] (.bool true) (.str "A"),
    .addShape .point [.float 1.0, .float 0.0] (.bool false) (.str "B"),
    .constrain .distance [.str "A", .str "B"] (.float 0.75) Constraint.defaultTolerance (.str "d"),
    .constrain .distance [.str "B", .str "A"] (.float 0.75)
      Constraint.defaultTolerance (.str "e")] {}

/-- Corrections are applied in full, and a number of pivots may be skipped. -/
def undamped (limit : Option Number) : Config :=
  { dampingFactor := .whole 1, maxRankDeficiency := limit }

/-- Each correction skips the pivot of the second constraint, and the run converges all the same.
When one pivot may be skipped the report has no notices and all is well; without a limit not all is
well. -/
theorem notices_doubled :
    (∃ (report : Report Float) (after : Session) (layout : Layout Float),
      perform (solve (undamped (some (.whole 1))) fun _ => false) doubled = (.ok report, after) ∧
      Layout.ofStore doubled.sketch.store = .ok layout ∧ report.notices = [] ∧
      doubled.sketch.store.AllWell (undamped (some (.whole 1))).settings report.ending
        (Newton.skips (doubled.problem layout (undamped (some (.whole 1))))
          doubled.sketch.store.parameters.toArray report.iterations)) ∧
    ∃ (report : Report Float) (after : Session) (layout : Layout Float),
      perform (solve (undamped none) fun _ => false) doubled = (.ok report, after) ∧
      Layout.ofStore doubled.sketch.store = .ok layout ∧ report.ending = .converged ∧
      ¬ doubled.sketch.store.AllWell (undamped none).settings report.ending
        (Newton.skips (doubled.problem layout (undamped none))
          doubled.sketch.store.parameters.toArray report.iterations) := by
  have reached : Reachable doubled := Reachable.fresh.afterAll _
  constructor
  · have silent :
        (perform (solve (undamped (some (.whole 1))) fun _ => false) doubled).1.toOption.map
        (fun report => report.notices.isEmpty) = some true := by decide +kernel
    rcases done : perform (solve (undamped (some (.whole 1))) fun _ => false) doubled with
      ⟨_ | report, after⟩
    · rw [done] at silent
      cases silent
    · rw [done] at silent
      have none : report.notices = [] := List.isEmpty_iff.mp (Option.some.inj silent)
      obtain ⟨layout, laid, iff⟩ := (notices_eq_nil_iff reached _ _).1 report after done
      exact ⟨report, after, layout, rfl, laid, none, iff.mp none⟩
  · have noticed : (perform (solve (undamped none) fun _ => false) doubled).1.toOption.map
        (fun report => (decide (report.ending = .converged), report.notices.isEmpty)) =
          some (true, false) := by decide +kernel
    rcases done : perform (solve (undamped none) fun _ => false) doubled with ⟨_ | report, after⟩
    · rw [done] at noticed
      cases noticed
    · rw [done] at noticed
      obtain ⟨converged, some⟩ := Prod.mk.inj (Option.some.inj noticed)
      obtain ⟨layout, laid, iff⟩ := (notices_eq_nil_iff reached _ _).1 report after done
      refine ⟨report, after, layout, rfl, laid, of_decide_eq_true converged, fun allWell => ?_⟩
      rw [iff.mpr allWell] at some
      cases some

end Session

end PlanarSketch
