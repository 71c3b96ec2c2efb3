import PlanarSketch.Json.Basic

/-!
# Writing JSON

Text is plain ASCII: quotes, backslashes, control characters and everything beyond `~` are escaped,
with a pair of escapes for a character beyond the basic plane and one escape for a surrogate.
Numbers that are not finite are written `NaN`, `Infinity` and `-Infinity`. A value is written on one
line, or with one item per line indented by two spaces a level; what is empty stays on one line
either way.

As for the reader, no limit is set to the digits of a whole number or to the depth of a value.
-/

set_option autoImplicit false

namespace PlanarSketch

namespace Json

/-- How the items of a list or object are set out. -/
inductive Layout where
  /-- On one line, a space after each comma. -/
  | line
  /-- One item per line, two spaces a level. -/
  | indented
deriving DecidableEq

/-- What stands before the first item, and after the last one, at a level. -/
def Layout.lineBreak : Layout → Nat → List Char
  | line, _ => []
  | indented, depth => '\n' :: List.replicate (2 * depth) ' '

/-- What stands between two items at a level. -/
def Layout.separator : Layout → Nat → List Char
  | line, _ => [',', ' ']
  | indented, depth => ',' :: Layout.indented.lineBreak depth

/-- The escape of one unit of sixteen bits. -/
def escapeUnit (unit : Nat) : List Char := '\\' :: 'u' :: Text.hexDigits 4 unit

/-- One character of a text. -/
def escapeChar (c : Char) : List Char :=
  if c = '"' then ['\\', '"']
  else if c = '\\' then ['\\', '\\']
  else if c = '\n' then ['\\', 'n']
  else if c = '\r' then ['\\', 'r']
  else if c = '\t' then ['\\', 't']
  else if c.toNat = 8 then ['\\', 'b']
  else if c.toNat = 12 then ['\\', 'f']
  else if 0x20 ≤ c.toNat ∧ c.toNat ≤ 0x7e then [c]
  else if c.toNat < 0x10000 then escapeUnit c.toNat
  else
    let offset := c.toNat - 0x10000
    escapeUnit (0xd800 + offset / 0x400) ++ escapeUnit (0xdc00 + offset % 0x400)

/-- One place of a text. -/
def escapePoint : CodePoint → List Char
  | .char c => escapeChar c
  | point => escapeUnit point.toNat

/-- A text between its quotes. -/
def textChars (text : Text) : List Char := '"' :: text.points.flatMap escapePoint ++ ['"']

/-- A double as JSON. -/
def floatChars (x : Float) : List Char :=
  if x.isNaN then "NaN".toList
  else if x.isInf then (if x < 0.0 then "-Infinity" else "Infinity").toList
  else (Decimal.shortest x).toList

mutual

/-- The characters of a value at a level. -/
def chars (layout : Layout) (depth : Nat) : Json → List Char
  | null => "null".toList
  | bool true => "true".toList
  | bool false => "false".toList
  | int n => (intText n).toList
  | float x => floatChars x
  | str text => textChars text
  | arr [] => ['[', ']']
  | arr (item :: rest) =>
    '[' :: layout.lineBreak (depth + 1) ++ chars layout (depth + 1) item ++
      itemChars layout (depth + 1) rest ++ layout.lineBreak depth ++ [']']
  | obj [] => ['\x7b', '\x7d']
  | obj ((name, value) :: rest) =>
    '\x7b' :: layout.lineBreak (depth + 1) ++ textChars name ++ ':' :: ' ' ::
      chars layout (depth + 1) value ++ fieldChars layout (depth + 1) rest ++
        layout.lineBreak depth ++ ['\x7d']

/-- The items after the first. -/
def itemChars (layout : Layout) (depth : Nat) : List Json → List Char
  | [] => []
  | item :: rest =>
    layout.separator depth ++ chars layout depth item ++ itemChars layout depth rest

/-- The fields after the first. -/
def fieldChars (layout : Layout) (depth : Nat) : List (Text × Json) → List Char
  | [] => []
  | (name, value) :: rest =>
    layout.separator depth ++ textChars name ++ ':' :: ' ' :: chars layout depth value ++
      fieldChars layout depth rest

end

/-- A value as JSON text on one line. -/
def compress (value : Json) : String := String.ofList (chars .line 0 value)

/-- A value as JSON text, one item per line. -/
def pretty (value : Json) : String := String.ofList (chars .indented 0 value)

end Json

end PlanarSketch
