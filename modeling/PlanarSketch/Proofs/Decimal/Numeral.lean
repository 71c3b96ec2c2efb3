import PlanarSketch.Decimal.Format
import PlanarSketch.Decimal.Literal
import PlanarSketch.Proofs.Decimal.Leading

/-!
# Numerals

The text of a finite double is a numeral (`Decimal.Numeral`): a sign, whole digits without a leading
zero, and a fraction or an exponent or both (`Decimal.shortest_numeral`). As a number text it stands
for the value of its parts (`Decimal.Numeral.read?_chars`).
-/

set_option autoImplicit false

namespace PlanarSketch

namespace Decimal

/-- The parts of a decimal number text. -/
structure Numeral where
  negative : Bool
  whole : List Char
  fraction : List Char
  exponent : Option Int

namespace Numeral

/-- A point with the digits after it, if there are any. -/
def pointChars : List Char → List Char
  | [] => []
  | fraction => '.' :: fraction

theorem pointChars_of_ne {fraction : List Char} (some : fraction ≠ []) :
    pointChars fraction = '.' :: fraction := by
  cases fraction with
  | nil => exact absurd rfl some
  | cons => rfl

/-- An exponent, if there is one. -/
def markChars : Option Int → List Char
  | some exponent => exponentChars exponent
  | none => []

def chars (numeral : Numeral) : List Char :=
  signChars numeral.negative ++
    (numeral.whole ++ (pointChars numeral.fraction ++ markChars numeral.exponent))

/-- The double that the parts stand for. -/
def value (numeral : Numeral) : Float :=
  let digits := numeral.whole ++ numeral.fraction
  Decimal.value numeral.negative (ofDigits digits) digits.length
    (-(numeral.fraction.length : Int) + numeral.exponent.getD 0)

/-- Numerals of numbers that are written with a fraction or an exponent. -/
structure Proper (numeral : Numeral) : Prop where
  whole : numeral.whole = ['0'] ∨ Digits.Leads numeral.whole
  fraction : ∀ c ∈ numeral.fraction, c.isDigit = true
  marked : numeral.fraction ≠ [] ∨ numeral.exponent.isSome = true

theorem Proper.whole_digits {numeral : Numeral} (proper : numeral.Proper) :
    ∀ c ∈ numeral.whole, c.isDigit = true := by
  rcases proper.whole with zero | leads
  · rw [zero]
    exact List.forall_mem_singleton.mpr rfl
  · exact leads.digits

theorem Proper.whole_cons {numeral : Numeral} (proper : numeral.Proper) :
    ∃ first rest, numeral.whole = first :: rest ∧ first.isDigit = true := by
  have digits := proper.whole_digits
  cases whole : numeral.whole with
  | nil =>
      rcases proper.whole with zero | leads
      · rw [zero] at whole
        cases whole
      · obtain ⟨_, _, same, _⟩ := leads.first
        rw [same] at whole
        cases whole
  | cons first rest => exact ⟨first, rest, rfl, digits first (whole ▸ List.mem_cons_self)⟩

theorem Proper.whole_ne {numeral : Numeral} (proper : numeral.Proper) : numeral.whole ≠ [] := by
  obtain ⟨first, rest, whole, _⟩ := proper.whole_cons
  exact whole ▸ List.cons_ne_nil _ _

end Numeral

/-! ## The text of a double is a numeral -/

theorem isDigit_replicate (count : Nat) : ∀ c ∈ List.replicate count '0', c.isDigit = true := by
  intro c member
  rw [List.eq_of_mem_replicate member]
  rfl

/-- A point is found where there is one among digits. -/
theorem contains_point {front : List Char} (digits : ∀ c ∈ front, c.isDigit = true) :
    front.contains '.' = false := by
  rw [Bool.eq_false_iff, ne_eq, List.contains_iff_mem]
  intro member
  cases digits '.' member

/-- Digits in front of the point, filled up with zeros. -/
theorem leads_front {chars : List Char} (leads : Digits.Leads chars) (count zeros : Nat) :
    Digits.Leads (chars.take (count + 1) ++ List.replicate zeros '0') where
  digits := by
    intro c member
    rcases List.mem_append.mp member with taken | zero
    · exact leads.digits c (List.mem_of_mem_take taken)
    · exact isDigit_replicate _ c zero
  first := by
    obtain ⟨first, rest, rfl, nonzero⟩ := leads.first
    exact ⟨first, rest.take count ++ List.replicate zeros '0', rfl, nonzero⟩

/-- Digits written positionally, with a fraction in any case. -/
theorem exists_positional {chars : List Char} (leads : Digits.Leads chars) (exponent : Int) :
    ∃ whole fraction, (whole = ['0'] ∨ Digits.Leads whole) ∧ (∀ c ∈ fraction, c.isDigit = true) ∧
      fraction ≠ [] ∧
      (let text := positional chars exponent
       if text.contains '.' then text else text ++ ['.', '0']) = whole ++ '.' :: fraction := by
  rw [positional]
  split
  case isTrue _ =>
    refine ⟨['0'], List.replicate (-exponent - 1).toNat '0' ++ chars, .inl rfl, ?_, ?_, rfl⟩
    · intro c member
      rcases List.mem_append.mp member with zero | digit
      · exact isDigit_replicate _ c zero
      · exact leads.digits c digit
    · obtain ⟨first, rest, rfl, _⟩ := leads.first
      simp
  case isFalse _ =>
    have front := leads_front leads exponent.toNat (exponent.toNat + 1 - chars.length)
    have plain := contains_point front.digits
    have behind : ∀ c ∈ chars.drop (exponent.toNat + 1), c.isDigit = true := fun c member =>
      leads.digits c (List.mem_of_mem_drop member)
    dsimp only
    cases rest : chars.drop (exponent.toNat + 1) with
    | nil =>
        refine ⟨_, ['0'], .inr front, List.forall_mem_singleton.mpr rfl, by decide, ?_⟩
        rw [if_neg (Bool.eq_false_iff.mp plain)]
    | cons digit digits =>
        rw [rest] at behind
        refine ⟨_, digit :: digits, .inr front, behind, by simp, ?_⟩
        rw [if_pos (by simp)]

/-- **The text of a finite double is a numeral.** -/
theorem shortest_numeral {x : Float} (defined : x.isNaN = false) (bounded : x.isInf = false) :
    ∃ numeral : Numeral, numeral.Proper ∧ (shortest x).toList = numeral.chars := by
  rw [shortest, ofParts, if_neg (Bool.eq_false_iff.mp defined),
    if_neg (Bool.eq_false_iff.mp bounded)]
  dsimp only
  rw [String.toList_ofList]
  have least : -1074 ≤ (Dyadic.ofFloat x).exponent := by
    simp only [Dyadic.ofFloat]
    omega
  generalize Dyadic.ofFloat x = parts at least
  split
  case isTrue _ =>
    exact ⟨⟨parts.negative, ['0'], ['0'], none⟩,
      ⟨.inl rfl, isDigit_replicate 1, .inl (List.cons_ne_nil _ _)⟩, rfl⟩
  case isFalse nonzero =>
    have leads := Digits.trimmedChars_shortest nonzero least
    split
    case isTrue _ =>
      obtain ⟨whole, fraction, proper, digits, some, written⟩ :=
        exists_positional leads (Digits.shortest parts).exponent
      refine ⟨⟨parts.negative, whole, fraction, none⟩, ⟨proper, digits, .inl some⟩, ?_⟩
      dsimp only at written
      rw [written, Numeral.chars, Numeral.markChars, List.append_nil, Numeral.pointChars_of_ne some]
    case isFalse _ =>
      obtain ⟨first, rest, chars, nonzero⟩ := leads.first
      refine ⟨⟨parts.negative, [first], rest, some (Digits.shortest parts).exponent⟩,
        ⟨.inr ?_, ?_, .inr rfl⟩, ?_⟩
      · exact ⟨fun c member => leads.digits c (by simp_all), first, [], rfl, nonzero⟩
      · exact fun c member => leads.digits c (by simp_all)
      · rw [chars]
        cases rest <;> simp [pointed, Numeral.chars, Numeral.pointChars, Numeral.markChars]

/-! ## Digits at the front -/

/-- What follows the digits of a number. -/
def NoDigit (rest : List CodePoint) : Prop := ∀ c, rest.head? = some (.char c) → c.isDigit = false

theorem spanDigits_append {digits : List Char} (all : ∀ c ∈ digits, c.isDigit = true)
    {rest : List CodePoint} (ends : NoDigit rest) :
    spanDigits (digits.map .char ++ rest) = (digits, rest) := by
  induction digits with
  | nil =>
      rw [List.map_nil, List.nil_append]
      unfold spanDigits
      split
      case h_1 c others =>
        have none := ends c rfl
        rw [if_neg (by rw [none]; decide)]
      case h_2 => rfl
  | cons c digits ih =>
      rw [List.map_cons, List.cons_append, spanDigits, if_pos (all c List.mem_cons_self),
        ih fun other member => all other (List.mem_cons_of_mem c member)]

theorem ofDigits_eq (digits : List Char) : ofDigits digits = Nat.ofDigitChars 10 digits 0 := rfl

/-- Digits filled up with zeros in front: they stand for the same number. -/
theorem padded_toDigits (zeros n : Nat) :
    let digits := List.replicate zeros '0' ++ Nat.toDigits 10 n
    (∀ c ∈ digits, c.isDigit = true) ∧ digits ≠ [] ∧ ofDigits digits = n := by
  refine ⟨?_, ?_, ?_⟩
  · intro c member
    rcases List.mem_append.mp member with zero | digit
    · exact isDigit_replicate _ c zero
    · exact Nat.isDigit_of_mem_toDigits (by decide) (by decide) digit
  · exact List.append_ne_nil_of_right_ne_nil _ Nat.toDigits_ne_nil
  · rw [ofDigits_eq, Nat.ofDigitChars_append, Nat.ofDigitChars_replicate_zero, Nat.mul_zero,
      Nat.ofDigitChars_ten_toDigits]

/-- An exponent is read back. -/
theorem spanExponent?_append (exponent : Int) {rest : List CodePoint} (ends : NoDigit rest) :
    spanExponent? ((exponentChars exponent).map .char ++ rest) = some (exponent, rest) := by
  obtain ⟨all, some, value⟩ :=
    padded_toDigits (2 - (Nat.toDigits 10 exponent.natAbs).length) exponent.natAbs
  rw [exponentChars, List.append_assoc]
  generalize List.replicate (2 - (Nat.toDigits 10 exponent.natAbs).length) '0' ++
    Nat.toDigits 10 exponent.natAbs = digits at all some value
  have span := spanDigits_append all ends
  rw [List.cons_append, List.cons_append, List.nil_append, List.map_cons, List.map_cons,
    List.cons_append, List.cons_append, spanExponent?, if_pos (.inl rfl)]
  obtain ⟨digit, others, rfl⟩ := List.exists_cons_of_ne_nil some
  split
  case isTrue negative =>
    simp only [spanSign, span, value]
    simp only [↓reduceIte, Option.some.injEq, Prod.mk.injEq, and_true]
    omega
  case isFalse positive =>
    simp only [spanSign, span, value]
    simp only [Bool.false_eq_true, ↓reduceIte, Option.some.injEq, Prod.mk.injEq, and_true]
    omega

/-- What is no exponent mark starts no exponent. -/
theorem spanExponent?_none {text : List CodePoint}
    (unmarked : ∀ c, text.head? = some (.char c) → c ≠ 'e' ∧ c ≠ 'E') :
    spanExponent? text = none := by
  unfold spanExponent?
  split
  case h_2 => rfl
  case h_1 mark rest =>
    refine if_neg ?_
    rintro (rfl | rfl)
    · exact (unmarked 'e' rfl).1 rfl
    · exact (unmarked 'E' rfl).2 rfl

/-! ## Reading numerals as number texts -/

/-- Characters that numerals are made of. -/
def IsNumeric (c : Char) : Prop := c.isDigit = true ∨ c = '-' ∨ c = '+' ∨ c = '.' ∨ c = 'e'

theorem toNat_of_isDigit {c : Char} (digit : c.isDigit = true) : 48 ≤ c.toNat ∧ c.toNat ≤ 57 := by
  rw [Char.isDigit, Bool.and_eq_true, decide_eq_true_eq, decide_eq_true_eq] at digit
  exact digit

theorem IsNumeric.asciiChar? {c : Char} (numeric : IsNumeric c) :
    asciiChar? (.char c) = some c := by
  refine if_pos ?_
  rcases numeric with digit | rfl | rfl | rfl | rfl
  · have := toNat_of_isDigit digit
    omega
  all_goals decide

theorem IsNumeric.isBlank {c : Char} (numeric : IsNumeric c) : Text.isBlank c = false := by
  rcases numeric with digit | rfl | rfl | rfl | rfl
  · have bounds := toNat_of_isDigit digit
    simp only [Text.isBlank, Bool.or_eq_false_iff, Bool.and_eq_false_iff, decide_eq_false_iff_not,
      beq_eq_false_iff_ne]
    omega
  all_goals decide

theorem IsNumeric.ne_underscore {c : Char} (numeric : IsNumeric c) : c ≠ '_' := by
  rintro rfl
  rcases numeric with digit | same | same | same | same
  · cases digit
  all_goals exact absurd same (by decide)

theorem mapM_asciiChar? {chars : List Char} (numeric : ∀ c ∈ chars, IsNumeric c) :
    (chars.map CodePoint.char).mapM asciiChar? = some chars := by
  induction chars with
  | nil => rfl
  | cons c rest ih =>
      rw [List.map_cons, List.mapM_cons, (numeric c List.mem_cons_self).asciiChar?,
        ih fun other member => numeric other (List.mem_cons_of_mem c member)]
      rfl

theorem trimBlanks_eq {chars : List Char} (numeric : ∀ c ∈ chars, IsNumeric c) :
    trimBlanks chars = chars := by
  have kept (text : List Char) (same : ∀ c ∈ text, IsNumeric c) : text.dropWhile
    Text.isBlank = text := by
    cases text with
    | nil => rfl
    | cons c rest => rw [List.dropWhile_cons, (same c List.mem_cons_self).isBlank]; rfl
  have reversed := kept chars.reverse fun c member => numeric c (List.mem_reverse.mp member)
  rw [trimBlanks, kept chars numeric, reversed, List.reverse_reverse]

theorem dropUnderscores?_eq (before : Option Char) {chars : List Char}
    (numeric : ∀ c ∈ chars, IsNumeric c) : dropUnderscores? before chars = some chars := by
  induction chars generalizing before with
  | nil => rfl
  | cons c rest ih =>
      have here := (numeric c List.mem_cons_self).ne_underscore
      unfold dropUnderscores?
      split
      case h_1 => contradiction
      case h_2 same => exact absurd (List.cons.inj same).1 here
      case h_3 same =>
        obtain ⟨rfl, rfl⟩ := List.cons.inj same
        rw [ih _ fun other member => numeric other (List.mem_cons_of_mem _ member), Option.map_some]

/-- Digits in front are no word. -/
theorem toLower_ne_word {first : Char} (digit : first.isDigit = true) (rest : List CodePoint)
    {letter : Char} (letters : List Char) (small : 57 < letter.toNat) :
    Text.toLower ⟨.char first :: rest⟩ ≠ Text.ofChars (letter :: letters) := by
  intro same
  have bounds := toNat_of_isDigit digit
  have head : first.toLower = letter := by
    have := (List.cons.inj (congrArg Text.points same)).1
    exact CodePoint.char.inj this
  have unchanged : first.toLower = first := by
    refine dif_neg ?_
    rintro ⟨upper, _⟩
    have : 65 ≤ first.toNat := upper
    omega
  rw [unchanged] at head
  rw [← head] at small
  omega

namespace Numeral

variable {numeral : Numeral}

theorem isNumeric_exponentChars (exponent : Int) : ∀ c ∈ exponentChars exponent, IsNumeric c := by
  obtain ⟨digits, _⟩ :=
    padded_toDigits (2 - (Nat.toDigits 10 exponent.natAbs).length) exponent.natAbs
  intro c member
  rw [exponentChars, List.append_assoc] at member
  rcases List.mem_append.mp member with mark | digit
  · split at mark <;> simp only [List.mem_cons, List.not_mem_nil, or_false] at mark <;>
      rcases mark with rfl | rfl <;> simp [IsNumeric]
  · exact .inl (digits c digit)

theorem Proper.isNumeric (proper : numeral.Proper) : ∀ c ∈ numeral.chars, IsNumeric c := by
  intro c member
  simp only [chars, List.mem_append] at member
  rcases member with sign | whole | fraction | mark
  · rw [signChars] at sign
    split at sign
    · rw [List.mem_singleton.mp sign]
      exact .inr (.inl rfl)
    · cases sign
  · exact .inl (proper.whole_digits c whole)
  · cases digits : numeral.fraction with
    | nil =>
        rw [digits] at fraction
        cases fraction
    | cons first rest =>
        rw [digits, pointChars] at fraction
        rcases List.mem_cons.mp fraction with rfl | digit
        · exact .inr (.inr (.inr (.inl rfl)))
        · exact .inl (proper.fraction c (digits ▸ digit))
        · nofun
  · cases exponent : numeral.exponent with
    | none =>
        rw [exponent] at mark
        cases mark
    | some exponent =>
        rw [exponent] at mark
        exact isNumeric_exponentChars _ c mark

/-- The sign of a numeral is split off. -/
theorem Proper.spanSign (proper : numeral.Proper) (tail : List CodePoint) :
    spanSign ((signChars numeral.negative ++ numeral.whole).map .char ++ tail) =
      (numeral.negative, numeral.whole.map .char ++ tail) := by
  obtain ⟨first, rest, whole, digit⟩ := proper.whole_cons
  rw [signChars]
  split
  case isTrue negative => rw [negative]; rfl
  case isFalse positive =>
    rw [List.nil_append, whole, Bool.eq_false_iff.mpr positive, List.map_cons, List.cons_append,
      Decimal.spanSign]
    · rintro _ same
      cases same
      cases digit
    · rintro _ same
      cases same
      cases digit

/-- What is written after the whole digits. -/
def tail (numeral : Numeral) : List Char :=
  pointChars numeral.fraction ++ markChars numeral.exponent

theorem map_chars (numeral : Numeral) : numeral.chars.map CodePoint.char =
    (signChars numeral.negative ++ numeral.whole).map .char ++ numeral.tail.map .char := by
  rw [chars, tail, ← List.append_assoc, List.map_append]

theorem exponentChars_cons (exponent : Int) : ∃ rest, exponentChars exponent = 'e' :: rest :=
  ⟨_, rfl⟩

theorem noDigit_markChars (exponent : Option Int) {rest : List CodePoint} (ends : NoDigit rest) :
    NoDigit ((markChars exponent).map .char ++ rest) := by
  cases exponent with
  | none => exact ends
  | some exponent =>
      intro c head
      cases head
      rfl

theorem noDigit_tail (numeral : Numeral) {rest : List CodePoint} (ends : NoDigit rest) :
    NoDigit (numeral.tail.map .char ++ rest) := by
  rw [tail, List.map_append, List.append_assoc]
  cases numeral.fraction with
  | nil => exact noDigit_markChars numeral.exponent ends
  | cons first digits =>
      intro c head
      cases head
      rfl

theorem noDigit_nil : NoDigit [] := by
  intro c head
  cases head

theorem Proper.readUnsigned? (proper : numeral.Proper) :
    readUnsigned? numeral.negative (numeral.whole.map .char ++ numeral.tail.map .char) =
      some numeral.value := by
  have whole := spanDigits_append proper.whole_digits (numeral.noDigit_tail noDigit_nil)
  rw [List.append_nil] at whole
  obtain ⟨first, rest, digits, digit⟩ := proper.whole_cons
  have noWord (letter : Char) (letters : List Char) (small : 57 < letter.toNat) :
      Text.toLower ⟨numeral.whole.map .char ++ numeral.tail.map .char⟩ ≠
        Text.ofChars (letter :: letters) := by
    rw [digits]
    exact toLower_ne_word digit _ letters small
  have noInf : _ ≠ Text.ofString "inf" := noWord 'i' ['n', 'f'] (by decide)
  have noInfinity : _ ≠ Text.ofString "infinity" :=
    noWord 'i' ['n', 'f', 'i', 'n', 'i', 't', 'y'] (by decide)
  have noNan : _ ≠ Text.ofString "nan" := noWord 'n' ['a', 'n'] (by decide)
  rw [Decimal.readUnsigned?, if_neg (not_or.mpr ⟨noInf, noInfinity⟩), if_neg noNan]
  have written (digits : List Char) : (numeral.whole ++ digits).isEmpty = false := by
    rw [‹numeral.whole = _›]
    rfl
  cases fraction : numeral.fraction with
  | nil =>
      obtain ⟨exponent, mark⟩ : ∃ exponent, numeral.exponent = some exponent :=
        Option.isSome_iff_exists.mp (proper.marked.resolve_left (absurd fraction))
      have read := spanExponent?_append exponent noDigit_nil
      obtain ⟨after, marked⟩ := exponentChars_cons exponent
      rw [marked, List.append_nil, List.map_cons] at read
      rw [tail, fraction, mark, markChars, pointChars, List.nil_append, marked,
        List.map_cons] at whole ⊢
      simp only [whole, written, read, List.cons.injEq, CodePoint.char.injEq, Char.reduceEq,
        false_and, imp_false, not_false_eq_true, implies_true]
      rw [value, fraction, mark]
      rfl
  | cons digit digits =>
      have span :=
        spanDigits_append proper.fraction (noDigit_markChars numeral.exponent noDigit_nil)
      rw [List.append_nil, fraction] at span
      rw [tail, fraction, pointChars_of_ne (List.cons_ne_nil _ _), List.cons_append, List.map_cons,
        List.map_append] at whole ⊢
      simp only [whole, span, written, value, fraction]
      cases numeral.exponent with
      | none => rfl
      | some exponent =>
          have read := spanExponent?_append exponent noDigit_nil
          obtain ⟨after, marked⟩ := exponentChars_cons exponent
          rw [marked, List.append_nil, List.map_cons] at read
          rw [markChars, marked, List.map_cons]
          simp only [read]
          rfl

/-- **As a number text a numeral stands for the value of its parts.** -/
theorem Proper.read?_chars (proper : numeral.Proper) :
    read? (Text.ofChars numeral.chars) = some numeral.value := by
  have signed := proper.spanSign (numeral.tail.map .char)
  rw [← map_chars] at signed
  rw [read?, Text.points_ofChars, mapM_asciiChar? proper.isNumeric]
  simp only [Option.bind_eq_bind, Option.bind_some]
  rw [trimBlanks_eq proper.isNumeric, dropUnderscores?_eq none proper.isNumeric, Option.bind_some,
    signed]
  exact proper.readUnsigned?

end Numeral

end Decimal

end PlanarSketch
