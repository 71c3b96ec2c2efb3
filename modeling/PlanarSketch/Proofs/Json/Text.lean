import Mathlib.Data.List.Chain
import PlanarSketch.Json.Reader
import PlanarSketch.Json.Writer

/-!
# Reading text

A text is read back from its escapes (`Json.readText_textChars`), with one exception: a high half of
a pair right before a low half is read as the character the two make. So what is read back are the
texts in which no half finds its partner (`Text.Unpaired`), and texts of characters are among them.
-/

set_option autoImplicit false

namespace PlanarSketch

/-- No high half of a pair stands right before a low half. -/
def Text.Unpaired (text : Text) : Prop :=
  text.points.IsChain fun first second =>
    ¬(Json.isHigh first.toNat = true ∧ Json.isLow second.toNat = true)

instance (text : Text) : Decidable text.Unpaired :=
  inferInstanceAs (Decidable (List.IsChain _ text.points))

namespace Json

/-! ## Units -/

theorem hexDigits_four {unit : Nat} (bounded : unit < 0x10000) :
    Text.hexDigits 4 unit = [(unit / 4096).digitChar, (unit / 256 % 16).digitChar,
      (unit / 16 % 16).digitChar, (unit % 16).digitChar] := by
  have digits (n : Nat) : Nat.toDigits 16 n =
      if n < 16 then [n.digitChar] else Nat.toDigits 16 (n / 16) ++ [(n % 16).digitChar] :=
    Nat.toDigits_eq_if (by decide)
  rw [Text.hexDigits]
  by_cases one : unit < 16
  · have parts : unit / 4096 = 0 ∧ unit / 256 % 16 = 0 ∧ unit / 16 % 16 = 0 ∧ unit % 16 = unit := by
      omega
    rw [digits, if_pos one, parts.1, parts.2.1, parts.2.2.1, parts.2.2.2]
    rfl
  rw [digits, if_neg one]
  by_cases two : unit / 16 < 16
  · have parts : unit / 4096 = 0 ∧ unit / 256 % 16 = 0 ∧ unit / 16 % 16 = unit / 16 := by omega
    rw [digits, if_pos two, parts.1, parts.2.1, parts.2.2]
    rfl
  rw [digits (unit / 16), if_neg two, Nat.div_div_eq_div_mul]
  by_cases three : unit / 256 < 16
  · have parts : unit / 4096 = 0 ∧ unit / 256 % 16 = unit / 256 := by omega
    rw [digits, if_pos three, parts.1, parts.2]
    rfl
  · rw [digits, if_neg three, digits, Nat.div_div_eq_div_mul, if_pos (by omega)]
    rfl

theorem hexValue?_digitChar : ∀ n < 16, hexValue? (.char n.digitChar) = some n := by decide

/-- The characters of a unit are a backslash, a `u` and four digits that stand for the unit. -/
theorem escapeUnit_spec {unit : Nat} (bounded : unit < 0x10000) :
    ∃ a b c d : Char, escapeUnit unit = ['\\', 'u', a, b, c, d] ∧
      unit? (.char a) (.char b) (.char c) (.char d) = some unit := by
  refine ⟨_, _, _, _, congrArg (fun digits => '\\' :: 'u' :: digits) (hexDigits_four bounded), ?_⟩
  rw [unit?, hexValue?_digitChar _ (by omega), hexValue?_digitChar _ (by omega),
    hexValue?_digitChar _ (by omega), hexValue?_digitChar _ (by omega)]
  simp only [Option.bind_eq_bind, Option.bind_some, Option.pure_def, Option.some.injEq]
  omega

/-- A unit that finds no partner is read as its code point. -/
theorem readText_unit {opening text : List CodePoint} {unit : Nat} (bounded : unit < 0x10000)
    (some : text ≠ [])
    (lone : isHigh unit = true → ∀ e f g h rest,
      text = .char '\\' :: .char 'u' :: e :: f :: g :: h :: rest →
        ∃ next, unit? e f g h = .some next ∧ isLow next = false) :
    readText opening ((escapeUnit unit).map .char ++ text) =
      andThen (.ofUnit unit) (readText opening text) := by
  obtain ⟨a, b, c, d, written, value⟩ := escapeUnit_spec bounded
  rw [written]
  simp only [List.map_cons, List.map_nil, List.cons_append, List.nil_append]
  by_cases followed : ∃ e f g h rest, text = .char '\\' :: .char 'u' :: e :: f :: g :: h :: rest
  · obtain ⟨e, f, g, h, rest, rfl⟩ := followed
    rw [readText, value]
    dsimp only
    split
    case isTrue high =>
      obtain ⟨next, read, low⟩ := lone (Bool.and_eq_true _ _ ▸ high).1 e f g h rest rfl
      rw [read]
      dsimp only
      rw [if_neg (Bool.eq_false_iff.mp low)]
    case isFalse _ => rfl
  · rw [readText, if_neg (by simpa using some), value]
    rintro e f g h rest same
    exact followed ⟨e, f, g, h, rest, same⟩

/-- A high half takes the low half that follows it. -/
theorem readText_pair {opening text : List CodePoint} {high low : Nat} (isHigh : isHigh high = true)
    (isLow : isLow low = true) (some : text ≠ []) :
    readText opening ((escapeUnit high ++ escapeUnit low).map .char ++ text) =
      andThen (.char (pairChar high low)) (readText opening text) := by
  have bounds : high < 0x10000 ∧ low < 0x10000 := by
    simp only [Json.isHigh, Json.isLow, Bool.and_eq_true, decide_eq_true_eq] at isHigh isLow
    omega
  obtain ⟨a, b, c, d, first, firstUnit⟩ := escapeUnit_spec bounds.1
  obtain ⟨e, f, g, h, second, secondUnit⟩ := escapeUnit_spec bounds.2
  rw [first, second]
  simp only [List.map_cons, List.map_nil, List.cons_append, List.nil_append]
  rw [readText, firstUnit]
  dsimp only
  rw [if_pos (by simpa [isHigh] using some), secondUnit]
  dsimp only
  rw [if_pos isLow]

/-! ## Code points -/

/-- The escapes of a code point. -/
inductive Written : CodePoint → List Char → Prop where
  | plain {c : Char} (free : c ≠ '"' ∧ c ≠ '\\' ∧ 0x20 ≤ c.toNat) : Written (.char c) [c]
  | mark {c letter : Char} (stands : escaped? (.char letter) = some c) :
      Written (.char c) ['\\', letter]
  | unit {point : CodePoint} (bounded : point.toNat < 0x10000) :
      Written point (escapeUnit point.toNat)
  | pair {high low : Nat} (isHigh : isHigh high = true) (isLow : isLow low = true) :
      Written (.char (pairChar high low)) (escapeUnit high ++ escapeUnit low)

theorem toNat_lt (c : Char) : c.toNat < 0x110000 ∧ ¬(0xd800 ≤ c.toNat ∧ c.toNat < 0xe000) := by
  have valid : c.toNat.isValidChar := c.valid
  unfold Nat.isValidChar at valid
  omega

theorem written_escapeChar (c : Char) : Written (.char c) (escapeChar c) := by
  have same {n : Nat} (number : c.toNat = n) : Char.ofNat n = c := number ▸ Char.ofNat_toNat c
  rw [escapeChar]
  split
  case isTrue quote =>
    rw [quote]
    exact .mark rfl
  case isFalse noQuote =>
  split
  case isTrue backslash =>
    rw [backslash]
    exact .mark rfl
  case isFalse noBackslash =>
  split
  case isTrue letter => exact letter ▸ .mark rfl
  split
  case isTrue letter => exact letter ▸ .mark rfl
  split
  case isTrue letter => exact letter ▸ .mark rfl
  split
  case isTrue letter => exact .mark (congrArg some (same letter))
  split
  case isTrue letter => exact .mark (congrArg some (same letter))
  split
  case isTrue printable => exact .plain ⟨noQuote, noBackslash, printable.1⟩
  split
  case isTrue bounded => exact .unit (show (CodePoint.char c).toNat < 0x10000 from bounded)
  case isFalse beyond =>
    have bound := (toNat_lt c).1
    have high : isHigh (0xd800 + (c.toNat - 0x10000) / 0x400) = true := by
      simp only [isHigh, Bool.and_eq_true, decide_eq_true_eq]
      omega
    have low : isLow (0xdc00 + (c.toNat - 0x10000) % 0x400) = true := by
      simp only [isLow, Bool.and_eq_true, decide_eq_true_eq]
      omega
    have pair := Written.pair high low
    rw [pairChar, same (by omega)] at pair
    exact pair

theorem written_escapePoint (point : CodePoint) : Written point (escapePoint point) := by
  cases point with
  | char c => exact written_escapeChar c
  | surrogate offset =>
      refine .unit ?_
      have := offset.isLt
      simp only [CodePoint.toNat, CodePoint.firstSurrogate]
      omega

theorem ofUnit_toNat {point : CodePoint} : CodePoint.ofUnit point.toNat = point := by
  rw [CodePoint.ofUnit]
  cases point with
  | char c =>
      have outside := (toNat_lt c).2
      rw [dif_neg (by simp only [CodePoint.toNat, CodePoint.firstSurrogate]; omega),
        CodePoint.toNat, Char.ofNat_toNat]
  | surrogate offset =>
      have inside := offset.isLt
      rw [dif_pos (by simp only [CodePoint.toNat, CodePoint.firstSurrogate]; omega)]
      simp [CodePoint.toNat]

/-- A code point is read back from its escapes, unless it is a high half and a low half follows. -/
theorem readText_point {opening text : List CodePoint} {point : CodePoint} {chars : List Char}
    (written : Written point chars) (some : text ≠ [])
    (lone : isHigh point.toNat = true → ∀ e f g h rest,
      text = .char '\\' :: .char 'u' :: e :: f :: g :: h :: rest →
        ∃ next, unit? e f g h = .some next ∧ isLow next = false) :
    readText opening (chars.map .char ++ text) = andThen point (readText opening text) := by
  cases written with
  | @plain c free =>
      obtain ⟨noQuote, noBackslash, printable⟩ := free
      have visible : isControl (.char c) = false := decide_eq_false (Nat.not_lt.mpr printable)
      rw [List.map_singleton, List.singleton_append, readText]
      · rw [if_neg (Bool.eq_false_iff.mp visible)]
      all_goals simp_all
  | @mark c letter stands =>
      have noUnit : letter ≠ 'u' := by
        rintro rfl
        cases stands
      rw [List.map_cons, List.map_singleton, List.cons_append, List.singleton_append, readText]
      · rw [stands]
      all_goals simp_all
  | unit bounded => rw [readText_unit bounded some lone, ofUnit_toNat]
  | pair isHigh isLow => exact readText_pair isHigh isLow some

/-! ## Texts -/

/-- What starts like the escape of a unit among written code points is one, and a low half only for
a low half. -/
theorem next_unit {points rest after : List CodePoint} {e f g h : CodePoint}
    (same : (points.flatMap escapePoint).map .char ++ .char '"' :: rest =
      .char '\\' :: .char 'u' :: e :: f :: g :: h :: after) :
    ∃ next, unit? e f g h = some next ∧
      (isLow next = true → ∃ point, points.head? = some point ∧ isLow point.toNat = true) := by
  cases points with
  | nil => exact absurd (CodePoint.char.inj (List.cons.inj same).1) (by decide)
  | cons point others =>
      have written := written_escapePoint point
      rw [List.flatMap_cons, List.map_append, List.append_assoc] at same
      generalize escapePoint point = chars at same written
      cases written with
      | plain free => exact absurd (CodePoint.char.inj (List.cons.inj same).1) free.2.1
      | mark stands =>
          cases CodePoint.char.inj (List.cons.inj (List.cons.inj same).2).1
          cases stands
      | unit bounded =>
          obtain ⟨a, b, c, d, digits, value⟩ := escapeUnit_spec bounded
          rw [digits] at same
          cases same
          exact ⟨_, value, fun low => ⟨point, rfl, low⟩⟩
      | @pair high low isHigh isLow =>
          have disjoint : Json.isLow high = false := by
            simp only [Json.isHigh, Json.isLow, Bool.and_eq_true, decide_eq_true_eq,
              Bool.and_eq_false_iff, decide_eq_false_iff_not] at isHigh ⊢
            omega
          have bounded : high < 0x10000 := by
            simp only [Json.isHigh, Bool.and_eq_true, decide_eq_true_eq] at isHigh
            omega
          obtain ⟨a, b, c, d, digits, value⟩ := escapeUnit_spec bounded
          rw [digits] at same
          cases same
          exact ⟨_, value, fun low => absurd low (Bool.eq_false_iff.mp disjoint)⟩

/-- **A text in which no half finds its partner is read back.** -/
theorem readText_escapes {opening rest : List CodePoint} {text : Text} (unpaired : text.Unpaired) :
    readText opening ((text.points.flatMap escapePoint).map .char ++ .char '"' :: rest) =
      .ok (text.points, rest) := by
  obtain ⟨points⟩ := text
  induction points with
  | nil => rw [List.flatMap_nil, List.map_nil, List.nil_append, readText]
  | cons point others ih =>
      have step := List.isChain_cons.mp unpaired
      rw [List.flatMap_cons, List.map_append, List.append_assoc,
        readText_point (written_escapePoint point) (by simp), ih step.2]
      · rfl
      · intro high e f g h after same
        obtain ⟨next, value, low⟩ := next_unit same
        refine ⟨next, value, Bool.eq_false_iff.mpr fun paired => ?_⟩
        obtain ⟨second, head, isLow⟩ := low paired
        exact step.1 second head ⟨high, isLow⟩

/-- A high half right before a low half is read as the character of the two. -/
example :
    readText [] (([CodePoint.surrogate 0, .surrogate 1024].flatMap escapePoint).map .char ++
      [.char '"']) =
    .ok ([.char (Char.ofNat 0x10000)], []) := by
  rfl

end Json

/-- In a text of characters no half finds its partner. -/
theorem Text.unpaired_ofChars (chars : List Char) : (Text.ofChars chars).Unpaired := by
  refine List.Pairwise.isChain (List.pairwise_map.mpr (List.pairwise_of_forall ?_))
  rintro first second ⟨high, _⟩
  have outside := (Json.toNat_lt first).2
  obtain ⟨least, below⟩ := Bool.and_eq_true_iff.mp high
  have least : 0xd800 ≤ first.toNat := of_decide_eq_true least
  have below : first.toNat < 0xdc00 := of_decide_eq_true below
  omega

end PlanarSketch
