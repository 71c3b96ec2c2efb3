import PlanarSketch.Proofs.Layout.Represents
import PlanarSketch.Proofs.Session.Finite

/-!
# Counting and diagnosing

The freedom of a sketch is counted in two ways. One adds up the parameters of its entities and the
number of its constraints. The other looks at the matrix of derivatives: its sizes, and how many of
its singular values are above a threshold.

The two fit together whatever the singular values are, as long as there are as many as the smaller
size of the matrix (`Diagnosis.Reconciles`): the rank leaves over as much freedom beyond redundant
equations as the count does, so a sketch with more equations than unknowns has a redundant one. In a
reachable session every matrix of finite derivatives has a diagnosis that fits, and diagnosing
changes nothing (`Session.Reachable.diagnose_reconciles`).
-/

set_option autoImplicit false

namespace PlanarSketch

variable {α : Type} [Scalar α] {m n : Nat}

/-! ## How many singular values there are -/

namespace Spectrum

@[simp] theorem length_insert (x : α) (values : List α) :
    (insert x values).length = values.length + 1 := by
  induction values with
  | nil => rfl
  | cons y rest ih =>
      rw [insert]
      split
      · rw [List.length_cons, ih, List.length_cons]
      · rfl

theorem length_foldl_insert (values held : List α) :
    (values.foldl (fun held value => insert value held) held).length =
      held.length + values.length := by
  induction values generalizing held with
  | nil => rfl
  | cons value rest ih =>
      rw [List.foldl_cons, ih, length_insert, List.length_cons]
      omega

/-- Each row gives one value. -/
theorem length_ofRows (a : Dense m n α) : (ofRows a).length = m := by
  rw [ofRows]
  dsimp only
  split
  · exact List.length_replicate
  · rw [length_foldl_insert, List.length_map, Vector.length_toList]
    exact Nat.zero_add m

/-- **There are as many singular values as the smaller size of the matrix.** -/
theorem length_singularValues (a : Dense m n α) : (singularValues a).length = min m n := by
  rw [singularValues]
  split
  case isTrue le => rw [length_ofRows, Nat.min_eq_left le]
  case isFalse more => rw [length_ofRows, Nat.min_eq_right (Nat.le_of_not_le more)]

end Spectrum

/-! ## Diagnoses that fit a count -/

theorem Freedom.isOver_iff {freedom : Freedom} :
    freedom.isOver = true ↔ freedom.unknowns < freedom.equations := by
  rw [isOver, decide_eq_true_iff, classification]
  split
  case isTrue more => exact iff_of_true rfl more
  case isFalse less =>
    refine iff_of_false ?_ less
    split <;> nofun

namespace Diagnosis

/-- A diagnosis fits a count of unknowns and equations. -/
structure Reconciles (diagnosis : Diagnosis α) (freedom : Freedom) : Prop where
  equations : (diagnosis.equations : Int) = freedom.equations
  unknowns : (diagnosis.unknowns : Int) = freedom.unknowns
  rank : diagnosis.rank ≤ min diagnosis.equations diagnosis.unknowns
  remaining : diagnosis.effectiveFreedom - diagnosis.redundantEquations = freedom.remaining
  effective : max 0 freedom.remaining ≤ diagnosis.effectiveFreedom
  redundant : max 0 (-freedom.remaining) ≤ diagnosis.redundantEquations
  /-- With more equations than unknowns one equation is redundant. -/
  surplus : freedom.isOver = true → 0 < diagnosis.redundantEquations
  condition : diagnosis.isFullRank = false → diagnosis.condition = none

omit [Scalar α] in
/-- A diagnosis with the sizes of the count fits it, when its rank is no larger than the sizes
allow. -/
theorem reconciles_of_rank {diagnosis : Diagnosis α} {freedom : Freedom}
    (equations : (diagnosis.equations : Int) = freedom.equations)
    (unknowns : (diagnosis.unknowns : Int) = freedom.unknowns)
    (rank : diagnosis.rank ≤ min diagnosis.equations diagnosis.unknowns)
    (condition : diagnosis.rank < min diagnosis.equations diagnosis.unknowns →
      diagnosis.condition = none) :
    diagnosis.Reconciles freedom := by
  refine ⟨equations, unknowns, rank, ?_, ?_, ?_, fun more => ?_, fun deficient => ?_⟩
  · rw [effectiveFreedom, redundantEquations, Freedom.remaining]
    omega
  · rw [effectiveFreedom, Freedom.remaining]
    omega
  · rw [redundantEquations, Freedom.remaining]
    omega
  · have excess := Freedom.isOver_iff.mp more
    rw [redundantEquations]
    omega
  · exact condition (lt_of_le_of_ne rank (of_decide_eq_false deficient))

theorem countAbove_le (threshold : α) (spectrum : List α) :
    countAbove threshold spectrum ≤ spectrum.length :=
  List.length_filter_le _ spectrum

/-- A diagnosis from as many values as the smaller size fits a count with the same sizes. -/
theorem reconciles_ofSpectrum {spectrum : List α} (enough : spectrum.length = min m n)
    {freedom : Freedom} (equations : (m : Int) = freedom.equations)
    (unknowns : (n : Int) = freedom.unknowns) :
    (ofSpectrum m n spectrum).Reconciles freedom := by
  refine reconciles_of_rank equations unknowns ?_ fun deficient => if_pos (.inl deficient)
  exact (countAbove_le _ spectrum).trans_eq enough

/-- The diagnosis of a matrix, with singular values that are computed in some way. -/
def ofValues (singular : (m n : Nat) → Dense m n α → List α) (a : Dense m n α) :
    Except (Error α) (Diagnosis α) :=
  if m = 0 ∨ n = 0 then .ok ⟨m, n, 0, none⟩
  else if a.isFinite then .ok (ofSpectrum m n (singular m n a))
  else .error .matrixNotFinite

/-- A way to compute singular values that gives as many for a finite matrix as its smaller size. -/
def CountsOut (singular : (m n : Nat) → Dense m n α → List α) : Prop :=
  ∀ (m n : Nat) (a : Dense m n α), a.isFinite = true → (singular m n a).length = min m n

theorem countsOut_singularValues : CountsOut (α := α) fun _ _ => Spectrum.singularValues :=
  fun _ _ a _ => Spectrum.length_singularValues a

/-- **A finite matrix has a diagnosis that fits every count with its sizes.** -/
theorem exists_reconciles {singular : (m n : Nat) → Dense m n α → List α}
    (counts : CountsOut singular) {a : Dense m n α} (finite : a.isFinite = true)
    {freedom : Freedom} (equations : (m : Int) = freedom.equations)
    (unknowns : (n : Int) = freedom.unknowns) :
    ∃ diagnosis, ofValues singular a = .ok diagnosis ∧ diagnosis.Reconciles freedom := by
  rw [ofValues]
  split
  case isTrue => exact ⟨_, rfl, reconciles_of_rank equations unknowns (Nat.zero_le _) fun _ => rfl⟩
  case isFalse =>
    exact ⟨_, rfl, reconciles_ofSpectrum (counts m n a finite) equations unknowns⟩

end Diagnosis

/-! ## Diagnosing in a session -/

/-- The sizes of a matrix of derivatives are those of the flat view. -/
theorem Store.sizes_of_givenJacobian {store : Store Float} {layout : Layout Float}
    (laid : Layout.ofStore store = .ok layout) {mode : DerivativeMode}
    {step : Except (Error Float) Float} {given : List GivenFormula}
    {jacobian : Jacobian.Filling m n Float}
    (built : store.givenJacobian mode step given = .ok ⟨m, n, jacobian⟩) :
    m = layout.equations ∧ n = layout.unknowns := by
  unfold Store.givenJacobian at built
  obtain ⟨_, again, rest⟩ := ok_of_bind built
  cases again.symm.trans laid
  obtain ⟨filled, made, done⟩ := ok_of_bind rest
  rw [Store.jacobian, laid] at made
  cases made
  dsimp only at done
  split at done
  case h_1 => cases done
  case h_2 =>
    cases done
    exact ⟨rfl, rfl⟩

/-- Without given formulas, and with a step that can be used, there is always a matrix of
derivatives. -/
theorem Store.exists_givenJacobian {store : Store Float} {layout : Layout Float}
    (laid : Layout.ofStore store = .ok layout) (mode : DerivativeMode) (step : Float) :
    ∃ (m n : Nat) (jacobian : Jacobian.Filling m n Float),
      store.givenJacobian mode (.ok step) [] = .ok ⟨m, n, jacobian⟩ := by
  have unfaulted : Fault.first? (Fault.ofFormulas layout mode [] ++ Fault.ofStep (.ok step)
      ((Jacobian.fill layout mode step (Formulas.given layout []) store.parameters.toArray
        none).firstDifference.map fun row => (1, row))) = none := by
    rw [Fault.ofFormulas_nil]
    rfl
  refine ⟨_, _, Jacobian.fill layout mode step (Formulas.given layout [])
    store.parameters.toArray none, ?_⟩
  unfold Store.givenJacobian Store.jacobian
  simp only [laid]
  simp only [bind, Except.bind, pure, Except.pure]
  rw [unfaulted]

namespace Session

open PlanarSketch.Action

variable {session : Session} {config : Config}

/-- Diagnosing with singular values that are computed in some way. -/
def diagnoseBy (singular : (m n : Nat) → Dense m n Float → List Float) (config : Config) :
    Action (Diagnosis Float) := do
  let session ← get
  let ⟨_, _, jacobian⟩ ← lift (session.sketch.store.givenJacobian config.mode config.epsilon.toStep
    session.formulas)
  lift (Diagnosis.ofValues singular jacobian.matrix)

theorem diagnose_eq (config : Config) :
    diagnose config = diagnoseBy (fun _ _ => Spectrum.singularValues) config := rfl

theorem perform_diagnoseBy (singular : (m n : Nat) → Dense m n Float → List Float) (config : Config)
    (session : Session) :
    perform (diagnoseBy singular config) session =
      (session.sketch.store.givenJacobian config.mode config.epsilon.toStep session.formulas >>=
        fun built => Diagnosis.ofValues singular built.2.2.matrix, session) := by
  rw [diagnoseBy, perform_bind_ok (perform_get session), perform_bind, perform_lift]
  cases session.sketch.store.givenJacobian config.mode config.epsilon.toStep
    session.formulas <;> rfl

/-- An action diagnoses a session under a configuration: it leaves the session as it is, and when
the derivatives are finite it answers a diagnosis that fits the count. -/
structure Diagnoses (session : Session) (config : Config)
    (action : Action (Diagnosis Float)) : Prop where
  kept : (perform action session).2 = session
  answers : ∀ (m n : Nat) (jacobian : Jacobian.Filling m n Float),
    session.sketch.store.givenJacobian config.mode config.epsilon.toStep session.formulas =
        .ok ⟨m, n, jacobian⟩ →
      jacobian.matrix.isFinite = true →
        ∃ diagnosis, (perform action session).1 = .ok diagnosis ∧
          diagnosis.Reconciles session.sketch.store.freedom

theorem Reachable.diagnoses (reached : Reachable session) (config : Config)
    {singular : (m n : Nat) → Dense m n Float → List Float}
    (counts : Diagnosis.CountsOut singular) :
    session.Diagnoses config (diagnoseBy singular config) := by
  have laid := Layout.ofStore_of_coherent reached.sound.coherent
  have represents := Layout.represents_laid reached.sound.coherent
  refine ⟨?_, fun m n jacobian built finite => ?_⟩
  · rw [perform_diagnoseBy]
  · rw [perform_diagnoseBy, built]
    obtain ⟨rfl, rfl⟩ := Store.sizes_of_givenJacobian laid built
    have equations := congrArg (Nat.cast (R := Int)) represents.equations
    exact Diagnosis.exists_reconciles counts finite equations represents.unknowns

/-- **Counting and diagnosing fit together.** Diagnosing a reachable session leaves it as it is, and
answers a diagnosis that fits the count whenever the derivatives are finite. It does so with any
singular values, as long as there are enough. Without given formulas, and with a step that can be
used, there are always derivatives. -/
theorem Reachable.diagnose_reconciles (reached : Reachable session) (config : Config) :
    session.Diagnoses config (diagnose config) ∧
    (∀ singular : (m n : Nat) → Dense m n Float → List Float, Diagnosis.CountsOut singular →
      session.Diagnoses config (diagnoseBy singular config)) ∧
    ∀ step, session.formulas = [] → config.epsilon.toStep = .ok step →
      ∃ (m n : Nat) (jacobian : Jacobian.Filling m n Float),
        session.sketch.store.givenJacobian config.mode config.epsilon.toStep session.formulas =
          .ok ⟨m, n, jacobian⟩ := by
  refine ⟨?_, fun singular counts => reached.diagnoses config counts,
    fun step unformed usable => ?_⟩
  · rw [diagnose_eq]
    exact reached.diagnoses config Diagnosis.countsOut_singularValues
  · rw [unformed, usable]
    exact Store.exists_givenJacobian (Layout.ofStore_of_coherent reached.sound.coherent)
      config.mode step

/-- A fixed point and a free one, wanted at a distance three times over. -/
def crowded : Session :=
  afterAll [
    .addShape .point [.float 0.0, .float 0.0] (.bool true) (.str "A"),
    .addShape .point [.float 1.0, .float 0.0] (.bool false) (.str "B"),
    .constrain .distance [.str "A", .str "B"] (.float 1.0) Constraint.defaultTolerance .null,
    .constrain .distance [.str "A", .str "B"] (.float 2.0) Constraint.defaultTolerance .null,
    .constrain .distance [.str "B", .str "A"] (.float 2.0) Constraint.defaultTolerance .null] {}

/-- Of three equations for two unknowns two are redundant, and one unknown is left open. -/
theorem diagnose_crowded_reconciles :
    ∃ diagnosis, perform (diagnose crowded.sketch.config) crowded = (.ok diagnosis, crowded) ∧
      diagnosis.Reconciles crowded.sketch.store.freedom ∧
      crowded.sketch.store.freedom.isOver = true ∧
      diagnosis.rank = 1 ∧ diagnosis.condition = none := by
  have reached : Reachable crowded := Reachable.fresh.afterAll _
  obtain ⟨⟨kept, answers⟩, _, _⟩ := reached.diagnose_reconciles crowded.sketch.config
  have finite : ((crowded.sketch.store.givenJacobian crowded.sketch.config.mode
      crowded.sketch.config.epsilon.toStep crowded.formulas).toOption.map
        fun built => built.2.2.matrix.isFinite) = some true := by decide +kernel
  have rank :
      (perform (diagnose crowded.sketch.config) crowded).1.toOption.map
        Diagnosis.rank = some 1 := by
    decide +kernel
  cases built : crowded.sketch.store.givenJacobian crowded.sketch.config.mode
      crowded.sketch.config.epsilon.toStep crowded.formulas with
  | error error =>
      rw [built] at finite
      cases finite
  | ok filled =>
      rw [built] at finite
      obtain ⟨m, n, jacobian⟩ := filled
      obtain ⟨diagnosis, answered, fits⟩ := answers m n jacobian built (Option.some.inj finite)
      rw [answered] at rank
      have one : diagnosis.rank = 1 := Option.some.inj rank
      refine ⟨diagnosis, Prod.ext answered kept, fits, by decide +kernel, one, fits.condition ?_⟩
      have count : crowded.sketch.store.freedom = ⟨2, 3⟩ := by decide +kernel
      have equations := fits.equations
      have unknowns := fits.unknowns
      rw [count] at equations unknowns
      rw [Diagnosis.isFullRank, one, decide_eq_false_iff_not]
      dsimp only at equations unknowns
      omega

end Session

end PlanarSketch
