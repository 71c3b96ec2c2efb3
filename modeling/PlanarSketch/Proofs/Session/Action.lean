import PlanarSketch.Session.Keyed

/-!
# What actions do and keep

An action performed from a session gives an answer or an error, and the session it leaves
(`Action.perform`). Performing a chain of actions is performing one from what the other left.

An action keeps a property of sessions when it leaves sessions with the property from such sessions,
whether it fails or not, and says something of its answers when it does not fail (`Action.Keeps`).
Keeping is shown along the chain: each action for itself, with what the earlier answers are known to
be.

An action that may break the property when it succeeds can still keep it when it fails
(`Action.KeepsFailing`). A chain does, when it keeps the property up to the last action that can
fail.
-/

set_option autoImplicit false

namespace PlanarSketch

variable {β γ : Type}

/-- The answer or error of an action, and the session it leaves. -/
def Action.perform (action : Action β) (session : Session) : Except (Error Float) β × Session :=
  action.run.run session

namespace Action

/-! ## Performing -/

@[simp] theorem perform_pure (answer : β) (session : Session) :
    perform (pure answer) session = (.ok answer, session) := rfl

/-- A chain goes on from what its first action left, and ends where that failed. -/
theorem perform_bind (first : Action β) (next : β → Action γ) (session : Session) :
    perform (first >>= next) session =
      match perform first session with
      | (.ok answer, after) => perform (next answer) after
      | (.error error, after) => (.error error, after) := by
  change (ExceptT.bindCont next ((first.run.run session).1)).run (first.run.run session).2 = _
  rw [perform]
  rcases first.run.run session with ⟨_ | _, after⟩ <;> rfl

theorem perform_bind_ok {first : Action β} {session after : Session} {answer : β}
    (done : perform first session = (.ok answer, after)) (next : β → Action γ) :
    perform (first >>= next) session = perform (next answer) after := by
  rw [perform_bind, done]

theorem perform_bind_error {first : Action β} {session after : Session} {error : Error Float}
    (failed : perform first session = (.error error, after)) (next : β → Action γ) :
    perform (first >>= next) session = (.error error, after) := by
  rw [perform_bind, failed]

/-- When a chain of two actions answers, both do. -/
theorem ok_of_perform_bind {first : Action β} {next : β → Action γ} {session after : Session}
    {answer : γ} (done : perform (first >>= next) session = (.ok answer, after)) :
    ∃ middle between, perform first session = (.ok middle, between) ∧
      perform (next middle) between = (.ok answer, after) := by
  rw [perform_bind] at done
  rcases here : perform first session with ⟨_ | middle, between⟩ <;> rw [here] at done
  · cases done
  · exact ⟨middle, between, rfl, done⟩

@[simp] theorem perform_lift (result : Except (Error Float) β) (session : Session) :
    perform (Session.lift result) session = (result, session) := rfl

@[simp] theorem perform_throw (error : Error Float) (session : Session) :
    perform (throw error : Action β) session = (.error error, session) := rfl

@[simp] theorem perform_get (session : Session) :
    perform (get : Action Session) session = (.ok session, session) := rfl

@[simp] theorem perform_modify (change : Session → Session) (session : Session) :
    perform (modify change : Action Unit) session = (.ok (), change session) := rfl

/-! ## Keeping -/

/-- An action keeps a property of sessions, and its answers have a property of their own. -/
def Keeps (holds : Session → Prop) (action : Action β) (answers : β → Prop) : Prop :=
  ∀ session, holds session → holds (perform action session).2 ∧
    ∀ answer, (perform action session).1 = .ok answer → answers answer

variable {holds : Session → Prop}

theorem keeps_pure {answers : β → Prop} {answer : β} (known : answers answer) :
    Keeps holds (pure answer) answers := by
  rintro session held
  refine ⟨held, ?_⟩
  rintro _ ⟨⟩
  exact known

/-- A chain keeps what both actions keep. -/
theorem keeps_bind {first : Action β} {next : β → Action γ} {middle : β → Prop} {answers : γ → Prop}
    (here : Keeps holds first middle)
    (later : ∀ answer, middle answer → Keeps holds (next answer) answers) :
    Keeps holds (first >>= next) answers := by
  intro session held
  obtain ⟨kept, known⟩ := here session held
  rw [perform_bind]
  rcases done : perform first session with ⟨_ | answer, after⟩ <;> rw [done] at kept known
  · exact ⟨kept, nofun⟩
  · exact later answer (known answer rfl) after kept

theorem keeps_lift {result : Except (Error Float) β} {answers : β → Prop}
    (known : ∀ answer, result = .ok answer → answers answer) :
    Keeps holds (Session.lift result) answers := fun _ held => ⟨held, known⟩

theorem keeps_throw {answers : β → Prop} (error : Error Float) :
    Keeps holds (throw error : Action β) answers := fun _ held => ⟨held, nofun⟩

theorem keeps_get : Keeps holds (get : Action Session) holds := by
  rintro session held
  refine ⟨held, ?_⟩
  rintro _ ⟨⟩
  exact held

theorem keeps_modify {change : Session → Session}
    (kept : ∀ session, holds session → holds (change session)) :
    Keeps holds (modify change : Action Unit) fun _ => True :=
  fun session held => ⟨kept session held, fun _ _ => trivial⟩

theorem keeps_discard {action : Action β} (keeps : Keeps holds action fun _ => True) :
    Keeps holds (action >>= fun _ => pure ()) fun _ => True :=
  keeps_bind keeps fun _ _ => keeps_pure trivial

/-! ## Succeeding -/

/-- An action that never fails. -/
def Succeeds (action : Action β) : Prop :=
  ∀ session, ∃ answer after, perform action session = (.ok answer, after)

theorem succeeds_pure (answer : β) : Succeeds (pure answer) := fun session => ⟨answer, session, rfl⟩

theorem succeeds_get : Succeeds (get : Action Session) := fun session => ⟨session, session, rfl⟩

theorem succeeds_modify (change : Session → Session) : Succeeds (modify change : Action Unit) :=
  fun session => ⟨(), change session, rfl⟩

theorem succeeds_bind {first : Action β} {next : β → Action γ} (here : Succeeds first)
    (later : ∀ answer, Succeeds (next answer)) : Succeeds (first >>= next) := by
  intro session
  obtain ⟨answer, between, done⟩ := here session
  rw [perform_bind_ok done]
  exact later answer between

/-! ## Keeping when failing -/

/-- An action that keeps a property of sessions when it fails. -/
def KeepsFailing (holds : Session → Prop) (action : Action β) : Prop :=
  ∀ session, holds session → ∀ error after, perform action session = (.error error, after) →
    holds after

theorem keepsFailing_of_keeps {action : Action β} {answers : β → Prop}
    (keeps : Keeps holds action answers) :
    KeepsFailing holds action := by
  intro session held error after failed
  have kept := (keeps session held).1
  rwa [failed] at kept

theorem keepsFailing_of_succeeds {action : Action β} (succeeds : Succeeds action) :
    KeepsFailing holds action := by
  intro session _ error after failed
  obtain ⟨answer, other, done⟩ := succeeds session
  rw [done] at failed
  cases failed

theorem keepsFailing_throw (error : Error Float) : KeepsFailing holds (throw error : Action β) := by
  rintro session held _ _ ⟨⟩
  exact held

/-- A chain keeps when failing what its first action keeps and the others keep when failing. -/
theorem keepsFailing_bind {first : Action β} {next : β → Action γ} {middle : β → Prop}
    (here : Keeps holds first middle) (later : ∀ answer, KeepsFailing holds (next answer)) :
    KeepsFailing holds (first >>= next) := by
  intro session held error after failed
  have kept := (here session held).1
  rw [perform_bind] at failed
  rcases done : perform first session with ⟨_ | answer, between⟩ <;> rw [done] at failed kept
  · cases failed
    exact kept
  · exact later answer between kept error after failed

/-- What never fails can follow. -/
theorem keepsFailing_bind_of_succeeds {first : Action β} {next : β → Action γ}
    (here : KeepsFailing holds first) (later : ∀ answer, Succeeds (next answer)) :
    KeepsFailing holds (first >>= next) := by
  intro session held error after failed
  rw [perform_bind] at failed
  rcases done : perform first session with ⟨_ | answer, between⟩ <;> rw [done] at failed
  · cases failed
    exact here session held _ _ done
  · obtain ⟨reply, other, succeeded⟩ := later answer between
    dsimp only at failed
    rw [succeeded] at failed
    cases failed

theorem keepsFailing_discard {action : Action β} (keeps : KeepsFailing holds action) :
    KeepsFailing holds (action >>= fun _ => pure ()) :=
  keepsFailing_bind_of_succeeds keeps fun _ => succeeds_pure ()

end Action

end PlanarSketch
