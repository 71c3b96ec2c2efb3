import PlanarSketch.Text.Basic
import PlanarSketch.Text.Printable

/-!
# Quoted text in messages

Messages show a text between quotes: single ones, or double ones when the text holds a single quote
and no double one. The quote in use and the backslash are escaped, line ends and tabulators have
their letters, and everything else that is not printable, surrogates included, is shown by its
number.
-/

set_option autoImplicit false

namespace PlanarSketch

namespace Text

/-- `width` hexadecimal digits of a number, in lower case. -/
def hexDigits (width n : Nat) : List Char :=
  let digits := Nat.toDigits 16 n
  List.replicate (width - digits.length) '0' ++ digits

/-- The quote a text is shown in. -/
def quoteFor (text : Text) : Char :=
  if text.points.contains (.char '\'') && !text.points.contains (.char '"') then '"' else '\''

/-- The number of a code point as an escape, as short as it can be. -/
def escapeNumber (n : Nat) : List Char :=
  if n ≤ 0xff then '\\' :: 'x' :: hexDigits 2 n
  else if n ≤ 0xffff then '\\' :: 'u' :: hexDigits 4 n
  else '\\' :: 'U' :: hexDigits 8 n

/-- One character inside quotes. -/
def quoteChar (quote c : Char) : List Char :=
  if c = quote ∨ c = '\\' then ['\\', c]
  else if c = '\n' then ['\\', 'n']
  else if c = '\r' then ['\\', 'r']
  else if c = '\t' then ['\\', 't']
  else if isPrintable c then [c]
  else escapeNumber c.toNat

/-- One place of a text inside quotes. -/
def quotePoint (quote : Char) : CodePoint → List Char
  | .char c => quoteChar quote c
  | point => escapeNumber point.toNat

/-- A text as messages show it. -/
def quoted (text : Text) : String :=
  let quote := quoteFor text
  String.ofList (quote :: text.points.flatMap (quotePoint quote) ++ [quote])

end Text

end PlanarSketch
