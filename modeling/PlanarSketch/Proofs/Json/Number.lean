import PlanarSketch.Json.Reader
import PlanarSketch.Json.Writer
import PlanarSketch.Proofs.Decimal.Numeral
import PlanarSketch.Proofs.Number.Special

/-!
# Reading numbers and words

A number is read back from what is written for it, whatever follows, as long as that does not carry
the number on (`Json.Ends`). Whole numbers need nothing else (`Json.readPlain_int`). For doubles it
is taken that the text of a finite double stands for it (`Decimal.ReadsBack`); then every double is
read back, also those that are not finite (`Json.readPlain_float`).
-/

set_option autoImplicit false

namespace PlanarSketch

/-- If a double is finite, its text is a number text that stands for it. -/
def Decimal.ReadsBack (x : Float) : Prop :=
  x.isFinite = true → Decimal.read? (Decimal.shortest x) = some x

instance (x : Float) : Decidable (Decimal.ReadsBack x) :=
  inferInstanceAs (Decidable (x.isFinite = true → Decimal.read? (Decimal.shortest x) = some x))

namespace Json

open Decimal

/-- What may follow a number. -/
def Ends (rest : List CodePoint) : Prop :=
  ∀ c, rest.head? = some (.char c) → c.isDigit = false ∧ c ≠ '.' ∧ c ≠ 'e' ∧ c ≠ 'E'

theorem Ends.noDigit {rest : List CodePoint} (ends : Ends rest) : NoDigit rest :=
  fun c head => (ends c head).1

theorem Ends.spanExponent? {rest : List CodePoint} (ends : Ends rest) :
    Decimal.spanExponent? rest = none :=
  spanExponent?_none fun c head => (ends c head).2.2

/-! ## The parts of a number -/

/-- The digits after a point, and what follows them. Without a digit after it, a point is left. -/
def spanFraction (text : List CodePoint) : List Char × List CodePoint :=
  match text with
  | .char '.' :: after =>
    match spanDigits after with
    | ([], _) => ([], text)
    | found => found
  | _ => ([], text)

/-- The number that a sign, whole digits and a fraction make with the exponent that may follow. -/
def assemble (negative : Bool) (whole : List Char) (fraction : List Char × List CodePoint) :
    Except Stop (Json × List CodePoint) :=
  let digits := whole ++ fraction.1
  let value (exponent : Int) : Json :=
    .float (Decimal.value negative (ofDigits digits) digits.length (-fraction.1.length + exponent))
  match Decimal.spanExponent? fraction.2 with
  | some (exponent, rest) => .ok (value exponent, rest)
  | none =>
    if fraction.1.isEmpty then
      let magnitude : Int := ofDigits whole
      .ok (.int (if negative then -magnitude else magnitude), fraction.2)
    else .ok (value 0, fraction.2)

/-- A number is read part by part. -/
theorem readNumber_of_parts (negative : Bool) {text tail : List CodePoint} {whole : List Char}
    (unsigned : ∀ rest, text ≠ .char '-' :: rest) (found : wholeDigits text = (whole, tail))
    (some : whole ≠ []) :
    readNumber ((signChars negative).map .char ++ text) = assemble negative whole
      (spanFraction tail) := by
  obtain ⟨first, others, rfl⟩ := List.exists_cons_of_ne_nil some
  cases negative with
  | true =>
      rw [signChars, if_pos rfl, List.map_cons, List.map_nil, List.cons_append, List.nil_append,
        readNumber]
      simp only [found]
      rfl
  | false =>
      rw [signChars, if_neg Bool.false_ne_true, List.map_nil, List.nil_append, readNumber]
      · simp only [found]
        rfl
      · exact unsigned

theorem wholeDigits_append {whole : List Char} (proper : whole = ['0'] ∨ Digits.Leads whole)
    {rest : List CodePoint} (ends : NoDigit rest) :
    wholeDigits (whole.map .char ++ rest) = (whole, rest) := by
  rcases proper with rfl | leads
  · rfl
  · have span := spanDigits_append leads.digits ends
    obtain ⟨first, others, rfl, nonzero⟩ := leads.first
    rw [List.map_cons, List.cons_append] at span ⊢
    rw [wholeDigits, span]
    rintro after same
    exact nonzero (CodePoint.char.inj (List.cons.inj same).1)

/-- Whole digits do not start with a sign. -/
theorem not_minus {whole : List Char} (proper : whole = ['0'] ∨ Digits.Leads whole)
    (tail : List CodePoint) :
    ∀ rest, whole.map .char ++ tail ≠ .char '-' :: rest := by
  rintro rest same
  rcases proper with rfl | leads
  · exact absurd (CodePoint.char.inj (List.cons.inj same).1) (by decide)
  · obtain ⟨first, others, rfl, _⟩ := leads.first
    cases CodePoint.char.inj (List.cons.inj same).1
    exact absurd (leads.digits '-' List.mem_cons_self) (by decide)

/-- After the whole digits of a numeral its fraction is found, which may be empty. -/
theorem spanFraction_tail {numeral : Numeral} (proper : numeral.Proper) {rest : List CodePoint}
    (ends : Ends rest) :
    spanFraction (numeral.tail.map .char ++ rest) =
      (numeral.fraction, (Numeral.markChars numeral.exponent).map .char ++ rest) := by
  rw [Numeral.tail]
  cases fraction : numeral.fraction with
  | nil =>
      obtain ⟨exponent, mark⟩ : ∃ exponent, numeral.exponent = some exponent :=
        Option.isSome_iff_exists.mp (proper.marked.resolve_left (absurd fraction))
      obtain ⟨after, marked⟩ := Numeral.exponentChars_cons exponent
      rw [Numeral.pointChars, List.nil_append, mark, Numeral.markChars, marked, List.map_cons,
        List.cons_append, spanFraction]
      rintro _ same
      exact absurd (CodePoint.char.inj (List.cons.inj same).1) (by decide)
  | cons digit digits =>
      have span := spanDigits_append proper.fraction
        (Numeral.noDigit_markChars numeral.exponent ends.noDigit)
      rw [fraction, List.map_cons, List.cons_append] at span
      rw [Numeral.pointChars_of_ne (List.cons_ne_nil _ _), List.cons_append, List.map_cons,
        List.cons_append, List.map_append, List.append_assoc, spanFraction]
      simp only [span, List.map_cons, List.cons_append]

theorem readNumber_numeral {numeral : Numeral} (proper : numeral.Proper) {rest : List CodePoint}
    (ends : Ends rest) :
    readNumber (numeral.chars.map .char ++ rest) = .ok (.float numeral.value, rest) := by
  have whole := wholeDigits_append proper.whole (numeral.noDigit_tail ends.noDigit)
  have unsigned := not_minus proper.whole (numeral.tail.map .char ++ rest)
  rw [Numeral.map_chars, List.map_append, List.append_assoc, List.append_assoc,
    readNumber_of_parts numeral.negative unsigned whole proper.whole_ne,
    spanFraction_tail proper ends, Numeral.value]
  cases mark : numeral.exponent with
  | some exponent =>
      rw [Numeral.markChars, assemble]
      simp only [spanExponent?_append exponent ends.noDigit]
      rfl
  | none =>
      have point : numeral.fraction.isEmpty = false := by
        simpa [mark] using proper.marked
      rw [Numeral.markChars, assemble]
      simp only [List.map_nil, List.nil_append, ends.spanExponent?, point]
      rfl

theorem proper_toDigits (n : Nat) :
    Nat.toDigits 10 n = ['0'] ∨ Digits.Leads (Nat.toDigits 10 n) := by
  rcases Nat.eq_zero_or_pos n with rfl | positive
  · exact .inl rfl
  · exact .inr (Digits.leads_toDigits (Nat.pos_iff_ne_zero.mp positive))

theorem intText_toList (n : Int) :
    (intText n).toList = signChars (decide (n < 0)) ++ Nat.toDigits 10 n.natAbs := by
  rw [intText, signChars]
  by_cases negative : n < 0 <;> simp [negative]

/-- A whole number is read back. -/
theorem readNumber_int (n : Int) {rest : List CodePoint} (ends : Ends rest) :
    readNumber ((intText n).toList.map .char ++ rest) = .ok (.int n, rest) := by
  have whole := wholeDigits_append (proper_toDigits n.natAbs) ends.noDigit
  have unsigned := not_minus (proper_toDigits n.natAbs) rest
  have fraction : spanFraction rest = ([], rest) := by
    unfold spanFraction
    split
    case h_1 after => exact absurd rfl (ends '.' rfl).2.1
    case h_2 => rfl
  rw [intText_toList, List.map_append, List.append_assoc,
    readNumber_of_parts _ unsigned whole Nat.toDigits_ne_nil, fraction, assemble]
  have value : (if decide (n < 0) = true then -(n.natAbs : Int) else n.natAbs) = n := by
    simp only [decide_eq_true_eq]
    split <;> omega
  simp only [ends.spanExponent?, ofDigits_eq, Nat.ofDigitChars_ten_toDigits, List.isEmpty_nil,
    value, ↓reduceIte]

/-! ## Words and numbers -/

/-- No word starts with a digit, or with a sign and a digit. -/
theorem words_letters : ∀ word ∈ words, ∃ first second rest,
    word.1 = .char first :: .char second :: rest ∧ first.isDigit = false ∧
      (first = '-' → second.isDigit = false) := by
  simp only [words, List.forall_mem_cons]
  refine ⟨⟨_, _, _, rfl, ?_⟩, ⟨_, _, _, rfl, ?_⟩, ⟨_, _, _, rfl, ?_⟩, ⟨_, _, _, rfl, ?_⟩,
    ⟨_, _, _, rfl, ?_⟩, ⟨_, _, _, rfl, ?_⟩, nofun⟩ <;> decide

/-- What starts like a number is read as one. -/
theorem readPlain_of_digit (negative : Bool) {whole : List Char}
    (proper : whole = ['0'] ∨ Digits.Leads whole) (tail : List CodePoint) :
    readPlain ((signChars negative ++ whole).map .char ++ tail) =
      readNumber ((signChars negative ++ whole).map .char ++ tail) := by
  have digits : ∃ first rest, whole = first :: rest ∧ first.isDigit = true := by
    rcases proper with rfl | leads
    · exact ⟨'0', [], rfl, rfl⟩
    · obtain ⟨first, rest, rfl, _⟩ := leads.first
      exact ⟨first, rest, rfl, leads.digits first List.mem_cons_self⟩
  obtain ⟨digit, rest, rfl, isDigit⟩ := digits
  have noWord : words.find? (fun word => word.1.isPrefixOf
      ((signChars negative ++ digit :: rest).map .char ++ tail)) = none := by
    refine List.find?_eq_none.mpr ?_
    intro word member found
    obtain ⟨first, second, others, written, letter, sign⟩ := words_letters word member
    rw [List.isPrefixOf_iff_prefix, written] at found
    cases negative with
    | true =>
        obtain ⟨same, found⟩ := List.cons_prefix_cons.mp found
        obtain ⟨next, _⟩ := List.cons_prefix_cons.mp found
        cases same
        cases next
        rw [sign rfl] at isDigit
        cases isDigit
    | false =>
        obtain ⟨same, _⟩ := List.cons_prefix_cons.mp found
        cases same
        rw [letter] at isDigit
        cases isDigit
  rw [readPlain, noWord]

/-- **A whole number is read back.** -/
theorem readPlain_int (n : Int) {rest : List CodePoint} (ends : Ends rest) :
    readPlain ((intText n).toList.map .char ++ rest) = .ok (.int n, rest) := by
  have read := readNumber_int n ends
  rw [intText_toList] at read ⊢
  rw [readPlain_of_digit _ (proper_toDigits n.natAbs), read]

/-- **A double is read back when its text stands for it.** -/
theorem readPlain_float {x : Float} (back : ReadsBack x) {rest : List CodePoint}
    (ends : Ends rest) :
    readPlain ((floatChars x).map .char ++ rest) = .ok (.float x, rest) := by
  rw [floatChars]
  split
  case isTrue undefined =>
    rw [Binary64.eq_undefined_of_isNaN undefined]
    rfl
  case isFalse defined =>
    split
    case isTrue infinite =>
      have special := Binary64.eq_infinity_of_isInf infinite
      split at special
      case isTrue negative =>
        rw [if_pos negative, special]
        rfl
      case isFalse positive =>
        rw [if_neg positive, special]
        rfl
    case isFalse bounded =>
      rw [Bool.not_eq_true] at defined bounded
      obtain ⟨numeral, proper, written⟩ := shortest_numeral defined bounded
      have value : numeral.value = x := by
        have read := back (Binary64.isFinite_of_not defined bounded)
        rw [Text.ofString, written, proper.read?_chars] at read
        exact Option.some.inj read
      have number := readNumber_numeral proper ends
      rw [Numeral.map_chars, List.append_assoc] at number
      rw [written, Numeral.map_chars, List.append_assoc, readPlain_of_digit _ proper.whole, number,
        value]

end Json

end PlanarSketch
