import PlanarSketch.Decimal.Literal
import PlanarSketch.Json.Basic

/-!
# Reading JSON

A reader consumes the front of a list of code points and hands back the rest. When it fails it says
why and at which rest, so the place of a fault is the difference of two lengths; `Fault.message`
counts lines and columns from it.

Beyond the standard, `NaN`, `Infinity` and `-Infinity` are numbers. Of two fields with one name the
later value counts, at the place of the earlier. A surrogate whose partner does not follow it is
kept. The recursion is bounded by the number of code points: in two nested calls at least one is
consumed.

A whole number may have any number of digits, and values may be nested to any depth. Readers at work
have limits on both, which can be configured (several thousand digits, about a thousand levels);
they are no part of the format and are not modelled here, so a text beyond them is read like any
other.
-/

set_option autoImplicit false

namespace PlanarSketch

namespace Json

/-- Why a text is not JSON. -/
inductive Reason where
  | expectingValue
  | extraData
  | expectingName
  | expectingComma
  | expectingColon
  | unterminatedText
  | controlCharacter
  | invalidEscape
  | invalidUnit
  | byteOrderMark
deriving DecidableEq, Repr

def Reason.message : Reason → String
  | expectingValue => "Expecting value"
  | extraData => "Extra data"
  | expectingName => "Expecting property name enclosed in double quotes"
  | expectingComma => "Expecting ',' delimiter"
  | expectingColon => "Expecting ':' delimiter"
  | unterminatedText => "Unterminated string starting at"
  | controlCharacter => "Invalid control character at"
  | invalidEscape => "Invalid \\escape"
  | invalidUnit => "Invalid \\uXXXX escape"
  | byteOrderMark => "Unexpected UTF-8 BOM (decode using utf-8-sig)"

/-- A reason and the rest of the text at the fault. -/
structure Stop where
  reason : Reason
  rest : List CodePoint

/-- A reason with its place in the text. -/
structure Fault where
  reason : Reason
  /-- Code points before the fault. -/
  offset : Nat
  /-- The line, counted from one. -/
  line : Nat
  /-- The column, counted from one. -/
  column : Nat
deriving DecidableEq, Repr

/-- The place of a stop in a text. -/
def Fault.ofStop (text : List CodePoint) (stop : Stop) : Fault :=
  let offset := text.length - stop.rest.length
  let before := text.take offset
  { reason := stop.reason
    offset := offset
    line := before.count (.char '\n') + 1
    column := (before.reverse.takeWhile (· ≠ .char '\n')).length + 1 }

def Fault.message (fault : Fault) : String :=
  fault.reason.message ++ ": line " ++ toString fault.line ++ " column " ++ toString fault.column ++
    " (char " ++ toString fault.offset ++ ")"

def isSpace : CodePoint → Bool
  | .char c => c = ' ' || c = '\t' || c = '\n' || c = '\r'
  | .surrogate _ => false

def skip (text : List CodePoint) : List CodePoint := text.dropWhile isSpace

def hexValue? : CodePoint → Option Nat
  | .char c =>
    if '0' ≤ c ∧ c ≤ '9' then some (c.toNat - '0'.toNat)
    else if 'a' ≤ c ∧ c ≤ 'f' then some (c.toNat - 'a'.toNat + 10)
    else if 'A' ≤ c ∧ c ≤ 'F' then some (c.toNat - 'A'.toNat + 10)
    else none
  | .surrogate _ => none

/-- The unit of sixteen bits that four hexadecimal digits stand for. -/
def unit? (a b c d : CodePoint) : Option Nat := do
  return (((← hexValue? a) * 16 + (← hexValue? b)) * 16 + (← hexValue? c)) * 16 + (← hexValue? d)

/-- The character a letter after a backslash stands for. -/
def escaped? : CodePoint → Option Char
  | .char '"' => some '"'
  | .char '\\' => some '\\'
  | .char '/' => some '/'
  | .char 'b' => some (Char.ofNat 8)
  | .char 'f' => some (Char.ofNat 12)
  | .char 'n' => some '\n'
  | .char 'r' => some '\r'
  | .char 't' => some '\t'
  | _ => none

/-- Whether a unit is the high half of a pair. -/
def isHigh (unit : Nat) : Bool := 0xd800 ≤ unit && unit < 0xdc00

/-- Whether a unit is the low half of a pair. -/
def isLow (unit : Nat) : Bool := 0xdc00 ≤ unit && unit < 0xe000

/-- The character of a pair of units. -/
def pairChar (high low : Nat) : Char :=
  Char.ofNat (0x10000 + (high - 0xd800) * 0x400 + (low - 0xdc00))

/-- Puts a code point in front of a text that was read. -/
def andThen (point : CodePoint) (reading : Except Stop (List CodePoint × List CodePoint)) :
    Except Stop (List CodePoint × List CodePoint) :=
  reading.map fun (points, rest) => (point :: points, rest)

def isControl (point : CodePoint) : Bool := point.toNat < 0x20

/-- Reads a text up to its closing quote; `opening` is the input at the opening quote. An escape by
number needs four hexadecimal digits and something after them. A high half takes a low half that
follows it as an escape of the same form. -/
def readText (opening : List CodePoint) :
    List CodePoint → Except Stop (List CodePoint × List CodePoint)
  | [] => .error ⟨.unterminatedText, opening⟩
  | .char '"' :: rest => .ok ([], rest)
  | .char '\\' :: .char 'u' :: a :: b :: c :: d ::
      .char '\\' :: .char 'u' :: e :: f :: g :: h :: rest =>
    match unit? a b c d with
    | none => .error ⟨.invalidUnit,
        .char 'u' :: a :: b :: c :: d :: .char '\\' :: .char 'u' :: e :: f :: g :: h :: rest⟩
    | some high =>
      if isHigh high && !rest.isEmpty then
        match unit? e f g h with
        | none => .error ⟨.invalidUnit, .char 'u' :: e :: f :: g :: h :: rest⟩
        | some low =>
          if isLow low then andThen (.char (pairChar high low)) (readText opening rest)
          else andThen (.ofUnit high)
            (readText opening (.char '\\' :: .char 'u' :: e :: f :: g :: h :: rest))
      else andThen (.ofUnit high)
        (readText opening (.char '\\' :: .char 'u' :: e :: f :: g :: h :: rest))
  | .char '\\' :: .char 'u' :: a :: b :: c :: d :: rest =>
    if rest.isEmpty then .error ⟨.invalidUnit, .char 'u' :: a :: b :: c :: d :: rest⟩
    else
      match unit? a b c d with
      | none => .error ⟨.invalidUnit, .char 'u' :: a :: b :: c :: d :: rest⟩
      | some unit => andThen (.ofUnit unit) (readText opening rest)
  | .char '\\' :: .char 'u' :: rest => .error ⟨.invalidUnit, .char 'u' :: rest⟩
  | [.char '\\'] => .error ⟨.unterminatedText, opening⟩
  | .char '\\' :: mark :: rest =>
    match escaped? mark with
    | none => .error ⟨.invalidEscape, .char '\\' :: mark :: rest⟩
    | some c => andThen (.char c) (readText opening rest)
  | point :: rest =>
    if isControl point then .error ⟨.controlCharacter, point :: rest⟩
    else andThen point (readText opening rest)

/-- The digits before the point: a zero alone, or digits that do not start with zero. -/
def wholeDigits : List CodePoint → List Char × List CodePoint
  | .char '0' :: rest => (['0'], rest)
  | text => Decimal.spanDigits text

/-- Reads a number: a whole one unless a fraction or an exponent follows. -/
def readNumber (text : List CodePoint) : Except Stop (Json × List CodePoint) :=
  let signed : Bool × List CodePoint := match text with
    | .char '-' :: rest => (true, rest)
    | rest => (false, rest)
  match wholeDigits signed.2 with
  | ([], _) => .error ⟨.expectingValue, text⟩
  | (whole, rest) =>
    let part : List Char × List CodePoint := match rest with
      | .char '.' :: after =>
        match Decimal.spanDigits after with
        | ([], _) => ([], rest)
        | found => found
      | _ => ([], rest)
    let digits := whole ++ part.1
    let scale : Int := -part.1.length
    let value (exponent : Int) : Json :=
      .float (Decimal.value signed.1 (Decimal.ofDigits digits) digits.length (scale + exponent))
    match Decimal.spanExponent? part.2 with
    | some (exponent, rest) => .ok (value exponent, rest)
    | none =>
      if part.1.isEmpty then
        let magnitude : Int := Decimal.ofDigits whole
        .ok (.int (if signed.1 then -magnitude else magnitude), part.2)
      else .ok (value 0, part.2)

/-- The words that stand for values, with what they stand for. -/
def words : List (List CodePoint × Json) := [
  (("null" : Text).points, .null),
  (("true" : Text).points, .bool true),
  (("false" : Text).points, .bool false),
  (("NaN" : Text).points, .float Binary64.undefined),
  (("Infinity" : Text).points, .float Binary64.infinity),
  (("-Infinity" : Text).points, .float (-Binary64.infinity))]

/-- Reads a word or a number. -/
def readPlain (text : List CodePoint) : Except Stop (Json × List CodePoint) :=
  match words.find? fun word => word.1.isPrefixOf text with
  | some word => .ok (word.2, text.drop word.1.length)
  | none => readNumber text

mutual

def readValue : Nat → List CodePoint → Except Stop (Json × List CodePoint)
  | 0, text => .error ⟨.expectingValue, text⟩
  | fuel + 1, text =>
    match text with
    | .char '"' :: rest => (readText text rest).map fun (points, rest) => (.str ⟨points⟩, rest)
    | .char '\x7b' :: rest =>
      match skip rest with
      | .char '\x7d' :: rest => .ok (.obj [], rest)
      | rest => (readFields fuel rest).map fun (fields, rest) =>
          (.obj (fields.foldl (fun known field => setField field.1 field.2 known) []), rest)
    | .char '[' :: rest =>
      match skip rest with
      | .char ']' :: rest => .ok (.arr [], rest)
      | rest => (readItems fuel rest).map fun (items, rest) => (.arr items, rest)
    | text => readPlain text

/-- Reads the items of a list up to its closing bracket. -/
def readItems : Nat → List CodePoint → Except Stop (List Json × List CodePoint)
  | 0, text => .error ⟨.expectingValue, text⟩
  | fuel + 1, text => do
    let (item, rest) ← readValue fuel text
    match skip rest with
    | .char ']' :: rest => .ok ([item], rest)
    | .char ',' :: rest =>
      let (items, rest) ← readItems fuel (skip rest)
      .ok (item :: items, rest)
    | rest => .error ⟨.expectingComma, rest⟩

/-- Reads the fields of an object up to its closing brace. -/
def readFields : Nat → List CodePoint → Except Stop (List (Text × Json) × List CodePoint)
  | 0, text => .error ⟨.expectingName, text⟩
  | fuel + 1, text =>
    match text with
    | .char '"' :: rest => do
      let (name, rest) ← readText text rest
      match skip rest with
      | .char ':' :: rest =>
        let (value, rest) ← readValue fuel (skip rest)
        match skip rest with
        | .char '\x7d' :: rest => .ok ([(⟨name⟩, value)], rest)
        | .char ',' :: rest =>
          let (fields, rest) ← readFields fuel (skip rest)
          .ok ((⟨name⟩, value) :: fields, rest)
        | rest => .error ⟨.expectingComma, rest⟩
      | rest => .error ⟨.expectingColon, rest⟩
    | text => .error ⟨.expectingName, text⟩

end

/-- Reads a whole text: one value with blanks around it. -/
def readAll (text : List CodePoint) : Except Stop Json :=
  match text with
  | .char '\ufeff' :: _ => .error ⟨.byteOrderMark, text⟩
  | _ => do
    let (value, rest) ← readValue (2 * text.length + 2) (skip text)
    match skip rest with
    | [] => .ok value
    | rest => .error ⟨.extraData, rest⟩

/-- The value a JSON text stands for. -/
def parse (text : Text) : Except Fault Json :=
  (readAll text.points).mapError (Fault.ofStop text.points)

end Json

end PlanarSketch
