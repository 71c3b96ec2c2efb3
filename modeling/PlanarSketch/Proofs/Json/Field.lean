import PlanarSketch.Json.Convert

/-!
# Looking up fields

Fields are looked up by name, from the front. Which field of a record is found is decided by
comparing names, and names given as strings are the same exactly when the strings are
(`Text.ofString_inj`).
-/

set_option autoImplicit false

namespace PlanarSketch

@[simp] theorem Text.ofString_inj {s t : String} : ofString s = ofString t ↔ s = t :=
  ⟨ofString_injective, congrArg ofString⟩

namespace Json

@[simp] theorem field?_nil (name : Text) : field? name [] = none := rfl

@[simp] theorem field?_cons (name other : Text) (value : Json) (rest : List (Text × Json)) :
    field? name ((other, value) :: rest) =
      if other = name then some value else field? name rest := by
  by_cases same : other = name <;> simp [field?, same]

end Json

end PlanarSketch
