/-!
# Chains of checks

A computation that may fail is read backwards from its success: every check in it succeeded
(`ok_of_bind`). Over a list, the checks succeed together just when each does (`exists_mapM_iff`),
with the results of each (`mem_of_mapM`). What each step keeps is kept by all of them
(`foldlM_keeps`), and taking a step after each check is taking all steps after the checks
(`foldlM_eq_map_mapM`).

It is read backwards from its failure, too: the checks before some place succeeded, and the one
there failed (`failsAs_bind`, `failsAs_mapM`, `failsAs_foldlM`).
-/

set_option autoImplicit false

namespace PlanarSketch

variable {ε α β : Type}

/-- When a chain of two checks succeeds, both do. -/
theorem ok_of_bind {first : Except ε α} {next : α → Except ε β} {result : β}
    (done : first >>= next = .ok result) :
    ∃ middle, first = .ok middle ∧ next middle = .ok result := by
  cases first with
  | error error => cases done
  | ok middle => exact ⟨middle, rfl, done⟩

theorem mapM_eq_map {check : α → Except ε β} {made : α → β} {items : List α}
    (each : ∀ item ∈ items, check item = .ok (made item)) :
    items.mapM check = .ok (items.map made) := by
  induction items with
  | nil => rfl
  | cons item rest ih =>
      rw [List.mapM_cons, each item List.mem_cons_self,
        ih fun other member => each other (List.mem_cons_of_mem item member)]
      rfl

theorem length_of_mapM {check : α → Except ε β} {items : List α} {results : List β}
    (done : items.mapM check = .ok results) : results.length = items.length := by
  induction items generalizing results with
  | nil =>
      cases done
      rfl
  | cons item rest ih =>
      rw [List.mapM_cons] at done
      obtain ⟨result, _, later⟩ := ok_of_bind done
      obtain ⟨others, checked, done⟩ := ok_of_bind later
      cases done
      rw [List.length_cons, List.length_cons, ih checked]

theorem foldlM_keeps {step : α → β → Except ε α} (holds : α → Prop)
    (keeps : ∀ before item after, holds before → step before item = .ok after → holds after)
    {items : List β} {first last : α} (start : holds first)
    (done : items.foldlM step first = .ok last) : holds last := by
  induction items generalizing first with
  | nil =>
      cases done
      exact start
  | cons item rest ih =>
      rw [List.foldlM_cons] at done
      obtain ⟨middle, here, later⟩ := ok_of_bind done
      exact ih (keeps first item middle start here) later

/-- Checking items and acting on each is checking them all first and acting then, when acting cannot
fail. -/
theorem foldlM_eq_map_mapM {γ : Type} {check : β → Except ε γ} {act : α → γ → α} (items : List β)
    (start : α) :
    items.foldlM (fun state item => do return act state (← check item)) start =
      (items.mapM check).map fun results => results.foldl act start := by
  induction items generalizing start with
  | nil => rfl
  | cons item rest ih =>
      rw [List.foldlM_cons, List.mapM_cons]
      cases check item with
      | error error => rfl
      | ok result =>
          refine (ih (act start result)).trans ?_
          cases rest.mapM check <;> rfl

/-- Checks of all items succeed when each does. -/
theorem exists_mapM_iff {check : α → Except ε β} {items : List α} :
    (∃ results, items.mapM check = .ok results) ↔
      ∀ item ∈ items, ∃ result, check item = .ok result := by
  induction items with
  | nil => exact iff_of_true ⟨[], rfl⟩ nofun
  | cons item rest ih =>
      rw [List.mapM_cons, List.forall_mem_cons, ← ih]
      constructor
      · rintro ⟨results, done⟩
        obtain ⟨result, here, later⟩ := ok_of_bind done
        obtain ⟨others, checked, _⟩ := ok_of_bind later
        exact ⟨⟨result, here⟩, ⟨others, checked⟩⟩
      · rintro ⟨⟨result, here⟩, ⟨others, checked⟩⟩
        rw [here, checked]
        exact ⟨result :: others, rfl⟩

/-- The results of checks are what the items give. -/
theorem mem_of_mapM {check : α → Except ε β} {items : List α} {results : List β}
    (done : items.mapM check = .ok results) (result : β) :
    result ∈ results ↔ ∃ item ∈ items, check item = .ok result := by
  induction items generalizing results with
  | nil =>
      cases done
      simp
  | cons item rest ih =>
      rw [List.mapM_cons] at done
      obtain ⟨first, here, later⟩ := ok_of_bind done
      obtain ⟨others, checked, done⟩ := ok_of_bind later
      cases done
      rw [List.mem_cons, ih checked]
      simp [here, eq_comm]

/-! ## Failing -/

/-- A computation fails with an error of some kind. -/
def FailsAs (kind : ε → Prop) : Except ε α → Prop
  | .ok _ => False
  | .error error => kind error

variable {kind : ε → Prop}

instance [DecidablePred kind] (result : Except ε α) : Decidable (FailsAs kind result) :=
  match result with
  | .ok _ => isFalse id
  | .error error => inferInstanceAs (Decidable (kind error))

theorem failsAs_iff {result : Except ε α} :
    FailsAs kind result ↔ ∃ error, result = .error error ∧ kind error := by
  cases result <;> simp [FailsAs]

@[simp] theorem failsAs_ok (result : α) : FailsAs kind (.ok result : Except ε α) ↔ False := Iff.rfl

@[simp] theorem failsAs_error (error : ε) : FailsAs kind (.error error : Except ε α) ↔ kind error :=
  Iff.rfl

/-- A chain of two checks fails when the first one does, or when the first succeeds and the second
fails. -/
theorem failsAs_bind {first : Except ε α} {next : α → Except ε β} :
    FailsAs kind (first >>= next) ↔
      FailsAs kind first ∨ ∃ middle, first = .ok middle ∧ FailsAs kind (next middle) := by
  cases first with
  | error error => simp [bind, Except.bind]
  | ok middle => simp [bind, Except.bind]

/-- Steps through a list fail at one of its items. -/
theorem failsAs_foldlM {step : α → β → Except ε α} {items : List β} {first : α} :
    FailsAs kind (items.foldlM step first) ↔ ∃ before item after middle,
      items = before ++ item :: after ∧ before.foldlM step first = .ok middle ∧
        FailsAs kind (step middle item) := by
  constructor
  · intro fails
    induction items generalizing first with
    | nil => cases fails
    | cons item rest ih =>
        rw [List.foldlM_cons, failsAs_bind] at fails
        rcases fails with here | ⟨middle, done, later⟩
        · exact ⟨[], item, rest, first, rfl, rfl, here⟩
        · obtain ⟨before, other, after, last, rfl, reached, fails⟩ := ih later
          refine ⟨item :: before, other, after, last, rfl, ?_, fails⟩
          rw [List.foldlM_cons, done]
          exact reached
  · rintro ⟨before, item, after, middle, rfl, reached, fails⟩
    rw [List.foldlM_append, reached, failsAs_bind]
    exact .inr ⟨middle, rfl, failsAs_bind.mpr (.inl fails)⟩

/-- Checks of the items of a list fail at the first that does not pass. -/
theorem failsAs_mapM {check : α → Except ε β} {items : List α} :
    FailsAs kind (items.mapM check) ↔ ∃ before item after,
      items = before ++ item :: after ∧ (∀ other ∈ before, ∃ result, check other = .ok result) ∧
        FailsAs kind (check item) := by
  constructor
  · intro fails
    induction items with
    | nil => cases fails
    | cons item rest ih =>
        rw [List.mapM_cons, failsAs_bind] at fails
        rcases fails with here | ⟨result, done, later⟩
        · exact ⟨[], item, rest, rfl, nofun, here⟩
        · rcases failsAs_bind.mp later with later | ⟨_, _, never⟩
          · obtain ⟨before, other, after, rfl, passed, fails⟩ := ih later
            exact ⟨item :: before, other, after, rfl,
              List.forall_mem_cons.mpr ⟨⟨result, done⟩, passed⟩, fails⟩
          · cases never
  · rintro ⟨before, item, after, rfl, passed, fails⟩
    induction before with
    | nil =>
        rw [List.nil_append, List.mapM_cons, failsAs_bind]
        exact .inl fails
    | cons other before ih =>
        obtain ⟨⟨result, done⟩, passed⟩ := List.forall_mem_cons.mp passed
        rw [List.cons_append, List.mapM_cons, done]
        exact failsAs_bind.mpr (.inr ⟨result, rfl, failsAs_bind.mpr (.inl (ih passed))⟩)

end PlanarSketch
