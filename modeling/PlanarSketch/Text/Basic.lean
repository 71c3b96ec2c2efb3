/-!
# Texts

A text is a list of code points. A code point is a character, or a surrogate: one half of the pair
that stands for a character beyond the basic plane where text is written in units of sixteen bits. A
surrogate on its own is no character, but documents can hold one, and then it is kept as it is.
-/

set_option autoImplicit false

namespace PlanarSketch

/-- One place of a text. -/
inductive CodePoint where
  | char (c : Char)
  /-- A surrogate, counted from the first one. -/
  | surrogate (offset : Fin 2048)
deriving DecidableEq, Repr, Inhabited

namespace CodePoint

/-- The number of the first surrogate. -/
def firstSurrogate : Nat := 0xd800

def toNat : CodePoint → Nat
  | char c => c.toNat
  | surrogate offset => firstSurrogate + offset.val

/-- The code point of one unit of sixteen bits. -/
def ofUnit (unit : Nat) : CodePoint :=
  if inside : unit - firstSurrogate < 2048 ∧ firstSurrogate ≤ unit then
    surrogate ⟨unit - firstSurrogate, inside.1⟩
  else char (Char.ofNat unit)

end CodePoint

/-- A list of code points. -/
structure Text where
  points : List CodePoint
deriving DecidableEq, Repr, Inhabited

namespace Text

/-- A text of characters. -/
def ofChars (chars : List Char) : Text := ⟨chars.map .char⟩

/-- A string as a text. -/
def ofString (s : String) : Text := ofChars s.toList

/-- Strings can stand where texts are asked for. -/
instance : Coe String Text := ⟨ofString⟩

instance : Append Text := ⟨fun a b => ⟨a.points ++ b.points⟩⟩

/-- Texts one after the other. -/
def concat (parts : List Text) : Text := ⟨parts.flatMap points⟩

def isEmpty (text : Text) : Bool := text.points.isEmpty

/-- The texts of the single places of a text. -/
def singletons (text : Text) : List Text := text.points.map fun point => ⟨[point]⟩

/-- A text with its ASCII letters in lower case. -/
def toLower (text : Text) : Text :=
  ⟨text.points.map fun
    | .char c => .char c.toLower
    | point => point⟩

/-- Putting texts together puts their code points together. -/
@[simp] theorem points_append (a b : Text) : (a ++ b).points = a.points ++ b.points := rfl

/-- A text of characters has these as its code points. -/
@[simp] theorem points_ofChars (chars : List Char) : (ofChars chars).points = chars.map .char := rfl

/-- Strings with the same text are the same. -/
theorem ofString_injective {s t : String} (same : ofString s = ofString t) : s = t := by
  have chars : s.toList.map CodePoint.char = t.toList.map CodePoint.char := congrArg points same
  exact String.toList_injective (List.map_inj_right
    (fun _ _ equal => CodePoint.char.inj equal) |>.1 chars)

end Text

end PlanarSketch
