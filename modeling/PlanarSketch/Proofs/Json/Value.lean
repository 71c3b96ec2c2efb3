import Mathlib.Data.List.Nodup
import PlanarSketch.Proofs.Json.Number
import PlanarSketch.Proofs.Json.Text

/-!
# Reading values

A value is read back from what is written for it, in either layout (`Json.parse_compress`,
`Json.parse_pretty`). This is so for the values that a document can hold (`Json.Proper`): the field
names of an object are distinct, and no half of a pair stands before its partner. The doubles in the
value have to be ones whose text stands for them.
-/

set_option autoImplicit false

namespace PlanarSketch

namespace Json

open Decimal

/-! ## Values of documents -/

mutual

/-- A value that a document can hold. -/
def Proper : Json → Prop
  | null | bool _ | int _ | float _ => True
  | str text => text.Unpaired
  | arr items => ProperItems items
  | obj fields => (fields.map Prod.fst).Nodup ∧ ProperFields fields

def ProperItems : List Json → Prop
  | [] => True
  | item :: rest => Proper item ∧ ProperItems rest

def ProperFields : List (Text × Json) → Prop
  | [] => True
  | (name, value) :: rest => name.Unpaired ∧ Proper value ∧ ProperFields rest

end

mutual

def decideProper : (value : Json) → Decidable value.Proper
  | null | bool _ | int _ | float _ => inferInstanceAs (Decidable True)
  | str text => inferInstanceAs (Decidable text.Unpaired)
  | arr items => decideProperItems items
  | obj fields =>
    have := decideProperFields fields
    inferInstanceAs (Decidable ((fields.map Prod.fst).Nodup ∧ ProperFields fields))

def decideProperItems : (items : List Json) → Decidable (ProperItems items)
  | [] => inferInstanceAs (Decidable True)
  | item :: rest =>
    have := decideProper item
    have := decideProperItems rest
    inferInstanceAs (Decidable (item.Proper ∧ ProperItems rest))

def decideProperFields : (fields : List (Text × Json)) → Decidable (ProperFields fields)
  | [] => inferInstanceAs (Decidable True)
  | (name, value) :: rest =>
    have := decideProper value
    have := decideProperFields rest
    inferInstanceAs (Decidable (name.Unpaired ∧ value.Proper ∧ ProperFields rest))

end

instance : DecidablePred Proper := decideProper

mutual

/-- The doubles in a value. -/
def doubles : Json → List Float
  | null | bool _ | int _ | str _ => []
  | float x => [x]
  | arr items => itemDoubles items
  | obj fields => fieldDoubles fields

def itemDoubles : List Json → List Float
  | [] => []
  | item :: rest => doubles item ++ itemDoubles rest

def fieldDoubles : List (Text × Json) → List Float
  | [] => []
  | (_, value) :: rest => doubles value ++ fieldDoubles rest

end

/-! ## Blanks -/

/-- Blanks in front of what is none are skipped. -/
theorem skip_append (blanks : List Char) (spaces : ∀ c ∈ blanks, isSpace (.char c) = true)
    {point : CodePoint} (solid : isSpace point = false) (rest : List CodePoint) :
    skip (blanks.map .char ++ point :: rest) = point :: rest := by
  rw [skip, List.dropWhile_append_of_pos, List.dropWhile_cons_of_neg (Bool.eq_false_iff.mp solid)]
  intro point member
  obtain ⟨c, present, rfl⟩ := List.mem_map.mp member
  exact spaces c present

theorem skip_cons {point : CodePoint} (solid : isSpace point = false) {rest : List CodePoint} :
    skip (point :: rest) = point :: rest := skip_append [] nofun solid rest

theorem isSpace_lineBreak (layout : Layout) (depth : Nat) :
    ∀ c ∈ layout.lineBreak depth, isSpace (.char c) = true := by
  intro c member
  cases layout with
  | line => cases member
  | indented =>
      rcases List.mem_cons.mp member with rfl | blank
      · rfl
      · rw [List.eq_of_mem_replicate blank]
        rfl

/-- Between two items stand a comma and blanks. -/
theorem exists_separator (layout : Layout) (depth : Nat) :
    ∃ blanks, layout.separator depth = ',' :: blanks ∧ ∀ c ∈ blanks, isSpace (.char c) = true := by
  cases layout with
  | line => exact ⟨[' '], rfl, List.forall_mem_singleton.mpr rfl⟩
  | indented => exact ⟨_, rfl, isSpace_lineBreak .indented depth⟩

/-- Blanks and then what does not carry a number on. -/
theorem ends_lineBreak (layout : Layout) (depth : Nat) {rest : List CodePoint} (ends : Ends rest) :
    Ends ((layout.lineBreak depth).map .char ++ rest) := by
  cases layout with
  | line => exact ends
  | indented =>
      intro c head
      cases head
      decide

theorem ends_itemChars (layout : Layout) (depth : Nat) (items : List Json) {rest : List CodePoint}
    (ends : Ends rest) : Ends ((itemChars layout depth items).map .char ++ rest) := by
  cases items with
  | nil =>
      rw [itemChars]
      exact ends
  | cons item others =>
      obtain ⟨blanks, comma, _⟩ := exists_separator layout depth
      intro c head
      rw [itemChars, comma] at head
      cases head
      decide

theorem ends_fieldChars (layout : Layout) (depth : Nat) (fields : List (Text × Json))
    {rest : List CodePoint} (ends : Ends rest) :
    Ends ((fieldChars layout depth fields).map .char ++ rest) := by
  cases fields with
  | nil =>
      rw [fieldChars]
      exact ends
  | cons field others =>
      obtain ⟨blanks, comma, _⟩ := exists_separator layout depth
      intro c head
      rw [fieldChars, comma] at head
      cases head
      decide

/-! ## How values start -/

/-- What words and numbers start with. -/
def StartsPlain (c : Char) : Prop := c.isAlphanum = true ∨ c = '-'

theorem startsPlain_signChars {digits : List Char} (negative : Bool)
    (all : ∀ c ∈ digits, c.isDigit = true) (some : digits ≠ []) :
    ∃ c rest, signChars negative ++ digits = c :: rest ∧ StartsPlain c := by
  cases negative with
  | true => exact ⟨'-', digits, rfl, .inr rfl⟩
  | false =>
      obtain ⟨first, rest, rfl⟩ := List.exists_cons_of_ne_nil some
      refine ⟨first, rest, rfl, .inl ?_⟩
      rw [Char.isAlphanum, all first List.mem_cons_self, Bool.or_true]

theorem startsPlain_intText (n : Int) :
    ∃ c rest, (intText n).toList = c :: rest ∧ StartsPlain c := by
  rw [intText_toList]
  exact startsPlain_signChars _
    (fun c member => Nat.isDigit_of_mem_toDigits (by decide) (by decide) member) Nat.toDigits_ne_nil

theorem startsPlain_floatChars (x : Float) :
    ∃ c rest, floatChars x = c :: rest ∧ StartsPlain c := by
  rw [floatChars]
  split
  case isTrue _ => exact ⟨_, _, rfl, .inl (by decide)⟩
  case isFalse defined =>
    split
    case isTrue _ =>
      split
      · exact ⟨_, _, rfl, .inr rfl⟩
      · exact ⟨_, _, rfl, .inl (by decide)⟩
    case isFalse bounded =>
      rw [Bool.not_eq_true] at defined bounded
      obtain ⟨numeral, proper, written⟩ := shortest_numeral defined bounded
      obtain ⟨c, rest, front, plain⟩ :=
        startsPlain_signChars numeral.negative proper.whole_digits proper.whole_ne
      refine ⟨c, rest ++ numeral.tail, ?_, plain⟩
      rw [written, Numeral.chars, ← List.append_assoc, front]
      rfl

theorem StartsPlain.ne {c : Char} (plain : StartsPlain c) (letter : Char)
    (mark : letter.isAlphanum = false ∧ letter ≠ '-') : c ≠ letter := by
  rintro rfl
  rcases plain with alphanumeric | minus
  · rw [mark.1] at alphanumeric
    cases alphanumeric
  · exact mark.2 minus

/-- What starts like a word or a number is read as one. -/
theorem readValue_plain {c : Char} (plain : StartsPlain c) (fuel : Nat) (rest : List CodePoint) :
    readValue (fuel + 1) (.char c :: rest) = readPlain (.char c :: rest) := by
  rw [readValue]
  · rintro _ same
    exact plain.ne _ (by decide) (CodePoint.char.inj (List.cons.inj same).1)
  · rintro _ same
    exact plain.ne _ (by decide) (CodePoint.char.inj (List.cons.inj same).1)
  · rintro _ same
    exact plain.ne _ (by decide) (CodePoint.char.inj (List.cons.inj same).1)

/-- A value starts with what is neither a blank nor the end of a list nor a byte order mark. -/
theorem chars_start (layout : Layout) (depth : Nat) (value : Json) :
    ∃ c rest, chars layout depth value = c :: rest ∧
      isSpace (.char c) = false ∧ c ≠ ']' ∧ c ≠ '\ufeff' := by
  have plain {c : Char} (start : StartsPlain c) :
      isSpace (.char c) = false ∧ c ≠ ']' ∧ c ≠ '\ufeff' := by
    have blank := start.ne ' ' (by decide)
    have tab := start.ne '\t' (by decide)
    have line := start.ne '\n' (by decide)
    have back := start.ne '\r' (by decide)
    exact ⟨by simp [isSpace, blank, tab, line, back], start.ne ']' (by decide),
      start.ne '\ufeff' (by decide)⟩
  cases value with
  | null => exact ⟨_, _, rfl, by decide⟩
  | bool value => cases value <;> exact ⟨_, _, rfl, by decide⟩
  | int n =>
      obtain ⟨c, rest, written, start⟩ := startsPlain_intText n
      exact ⟨c, rest, by rw [chars, written], plain start⟩
  | float x =>
      obtain ⟨c, rest, written, start⟩ := startsPlain_floatChars x
      exact ⟨c, rest, by rw [chars, written], plain start⟩
  | str text => exact ⟨_, _, rfl, by decide⟩
  | arr items => cases items <;> exact ⟨_, _, rfl, by decide⟩
  | obj fields => cases fields <;> exact ⟨_, _, rfl, by decide⟩

/-! ## Reading -/

/-- Fields with distinct names are kept as they are. -/
theorem foldl_setField {fields known : List (Text × Json)}
    (distinct : ((known ++ fields).map Prod.fst).Nodup) :
    fields.foldl (fun known field => setField field.1 field.2 known) known = known ++ fields := by
  have appended (known : List (Text × Json)) (name : Text) (value : Json)
      (fresh : name ∉ known.map Prod.fst) :
      setField name value known = known ++ [(name, value)] := by
    induction known with
    | nil => rfl
    | cons field rest ih =>
        obtain ⟨here, later⟩ := not_or.mp (mt List.mem_cons.mpr fresh)
        rw [setField, if_neg (Ne.symm here), ih later, List.cons_append]
  induction fields generalizing known with
  | nil => rw [List.foldl_nil, List.append_nil]
  | cons field rest ih =>
      have fresh : field.1 ∉ known.map Prod.fst := by
        rw [List.map_append, List.map_cons, List.nodup_middle, List.nodup_cons, List.mem_append,
          not_or] at distinct
        exact distinct.1.1
      rw [List.foldl_cons, appended known field.1 field.2 fresh, ih, List.append_assoc,
        List.singleton_append]
      rw [List.append_assoc]
      exact distinct

/-- Blanks in front of a value are skipped. -/
theorem skip_chars (blanks : List Char) (spaces : ∀ c ∈ blanks, isSpace (.char c) = true)
    (layout : Layout) (depth : Nat) (value : Json) (rest : List CodePoint) :
    skip (blanks.map .char ++ ((chars layout depth value).map .char ++ rest)) =
      (chars layout depth value).map .char ++ rest := by
  obtain ⟨start, tail, front, solid, _⟩ := chars_start layout depth value
  rw [front, List.map_cons, List.cons_append]
  exact skip_append blanks spaces solid _

section Steps

variable {fuel : Nat} {text after more rest : List CodePoint}

theorem readItems_last {item : Json} (read : readValue fuel text = .ok (item, after))
    (closes : skip after = .char ']' :: rest) : readItems (fuel + 1) text = .ok ([item], rest) := by
  rw [readItems, read]
  simp only [bind, Except.bind]
  rw [closes]
  rfl

theorem readItems_next {item : Json} {items : List Json}
    (read : readValue fuel text = .ok (item, after)) (comma : skip after = .char ',' :: more)
    (others : readItems fuel (skip more) = .ok (items, rest)) :
    readItems (fuel + 1) text = .ok (item :: items, rest) := by
  rw [readItems, read]
  simp only [bind, Except.bind]
  rw [comma]
  simp only [others]

theorem readFields_last {name : List CodePoint} {value : Json}
    (named : readText (.char '"' :: text) text = .ok (name, .char ':' :: .char ' ' :: after))
    (read : readValue fuel (skip (.char ' ' :: after)) = .ok (value, more))
    (closes : skip more = .char '\x7d' :: rest) :
    readFields (fuel + 1) (.char '"' :: text) = .ok ([(⟨name⟩, value)], rest) := by
  rw [readFields, named]
  simp only [bind, Except.bind]
  rw [skip_cons rfl]
  simp only [read]
  rw [closes]
  rfl

theorem readFields_next {name : List CodePoint} {value : Json} {fields : List (Text × Json)}
    {behind : List CodePoint}
    (named : readText (.char '"' :: text) text = .ok (name, .char ':' :: .char ' ' :: after))
    (read : readValue fuel (skip (.char ' ' :: after)) = .ok (value, more))
    (comma : skip more = .char ',' :: behind)
    (others : readFields fuel (skip behind) = .ok (fields, rest)) :
    readFields (fuel + 1) (.char '"' :: text) = .ok ((⟨name⟩, value) :: fields, rest) := by
  rw [readFields, named]
  simp only [bind, Except.bind]
  rw [skip_cons rfl]
  simp only [read]
  rw [comma]
  simp only [others]

theorem readValue_items {items : List Json} {first : Char} (start : skip text = .char first :: more)
    (inside : first ≠ ']') (read : readItems fuel (.char first :: more) = .ok (items, rest)) :
    readValue (fuel + 1) (.char '[' :: text) = .ok (.arr items, rest) := by
  rw [readValue, start]
  split
  case h_1 _ same => exact absurd (CodePoint.char.inj (List.cons.inj same).1) inside
  case h_2 => rw [read]; rfl

theorem readValue_fields {fields : List (Text × Json)} (start : skip text = .char '"' :: more)
    (read : readFields fuel (.char '"' :: more) = .ok (fields, rest))
    (distinct : (fields.map Prod.fst).Nodup) :
    readValue (fuel + 1) (.char '\x7b' :: text) = .ok (.obj fields, rest) := by
  have kept : fields.foldl (fun known field => setField field.1 field.2 known) [] = fields :=
    foldl_setField distinct
  rw [readValue, start]
  change (readFields fuel (.char '"' :: more)).map _ = _
  rw [read]
  exact congrArg (fun fields => (Except.ok (.obj fields, rest) : Except Stop
    (Json × List CodePoint))) kept

end Steps

variable (layout : Layout)

mutual

/-- **A value is read back from what is written for it.** -/
theorem readValue_chars (depth : Nat) (value : Json) (proper : value.Proper)
    (decimals : ∀ x ∈ value.doubles, ReadsBack x) (fuel : Nat)
    (enough : 2 * (chars layout depth value).length ≤ fuel) (rest : List CodePoint)
    (ends : Ends rest) :
    readValue fuel ((chars layout depth value).map .char ++ rest) = .ok (value, rest) := by
  obtain ⟨start, tail, front, _⟩ := chars_start layout depth value
  obtain ⟨fuel, rfl⟩ : ∃ less, fuel = less + 1 := by
    rw [front, List.length_cons] at enough
    exact ⟨fuel - 1, by omega⟩
  match value with
  | .null => rfl
  | .bool true => rfl
  | .bool false => rfl
  | .int n =>
      obtain ⟨c, tail, written, start⟩ := startsPlain_intText n
      have read := readPlain_int n ends
      rw [written, List.map_cons, List.cons_append] at read
      rw [chars, written, List.map_cons, List.cons_append, readValue_plain start, read]
  | .float x =>
      obtain ⟨c, tail, written, start⟩ := startsPlain_floatChars x
      have read := readPlain_float (decimals x List.mem_cons_self) ends
      rw [written, List.map_cons, List.cons_append] at read
      rw [chars, written, List.map_cons, List.cons_append, readValue_plain start, read]
  | .str text =>
      rw [Proper] at proper
      rw [chars, textChars, List.cons_append, List.map_cons, List.map_append, List.cons_append,
        List.append_assoc, readValue, List.map_singleton, List.singleton_append,
        readText_escapes proper]
      rfl
  | .arr [] => rfl
  | .arr (item :: others) =>
      rw [Proper] at proper
      rw [doubles] at decimals
      have closing :=
        skip_append _ (isSpace_lineBreak layout depth)
          (show isSpace (.char ']') = false from rfl) rest
      have inner := readItems_chars (depth + 1) item others proper decimals fuel (by
        rw [chars] at enough
        simp only [List.length_cons, List.length_append] at enough
        omega) _ rest (ends_lineBreak layout depth (by
          intro c head
          cases head
          decide)) closing
      obtain ⟨first, tail, written, solid, inside, _⟩ := chars_start layout (depth + 1) item
      have blanks := skip_append _ (isSpace_lineBreak layout (depth + 1)) solid
      rw [chars]
      rw [written] at inner ⊢
      simp only [List.cons_append, List.map_cons, List.map_append, List.append_assoc] at inner ⊢
      exact readValue_items (blanks _) inside inner
  | .obj [] => rfl
  | .obj ((name, item) :: others) =>
      rw [Proper] at proper
      rw [doubles] at decimals
      have closing :=
        skip_append _ (isSpace_lineBreak layout depth)
          (show isSpace (.char '\x7d') = false from rfl) rest
      have inner := readFields_chars (depth + 1) name item others proper.2 decimals fuel (by
        rw [chars] at enough
        simp only [List.length_cons, List.length_append] at enough
        omega) _ rest (ends_lineBreak layout depth (by
          intro c head
          cases head
          decide)) closing
      have blanks :=
        skip_append _ (isSpace_lineBreak layout (depth + 1))
          (show isSpace (.char '"') = false from rfl)
      rw [chars]
      rw [textChars] at inner ⊢
      simp only [List.cons_append, List.map_cons, List.map_append, List.append_assoc] at inner ⊢
      exact readValue_fields (blanks _) inner proper.1
termination_by fuel

theorem readItems_chars (depth : Nat) (item : Json) (others : List Json)
    (proper : ProperItems (item :: others))
    (decimals : ∀ x ∈ itemDoubles (item :: others), ReadsBack x) (fuel : Nat)
    (enough :
      2 * ((chars layout depth item).length + (itemChars layout depth others).length) + 1 ≤ fuel)
    (closing rest : List CodePoint) (ends : Ends closing)
    (closes : skip closing = .char ']' :: rest) :
    readItems fuel
        ((chars layout depth item ++ itemChars layout depth others).map .char ++ closing) =
      .ok (item :: others, rest) := by
  obtain ⟨fuel, rfl⟩ : ∃ less, fuel = less + 1 := ⟨fuel - 1, by omega⟩
  rw [ProperItems] at proper
  rw [itemDoubles] at decimals
  have here := readValue_chars depth item proper.1
    (fun x member => decimals x (List.mem_append_left _ member))
    fuel (by omega) _ (ends_itemChars layout depth others ends)
  rw [List.map_append, List.append_assoc]
  match others with
  | [] =>
      rw [itemChars] at here ⊢
      exact readItems_last here closes
  | next :: later =>
      obtain ⟨blanks, comma, spaces⟩ := exists_separator layout depth
      rw [itemChars, comma] at here enough ⊢
      have there := readItems_chars depth next later proper.2
        (fun x member => decimals x (List.mem_append_right _ member)) fuel (by
          simp only [List.length_append, List.length_cons] at enough
          omega) closing rest ends closes
      have front :=
        skip_chars blanks spaces layout depth next
          ((itemChars layout depth later).map .char ++ closing)
      simp only [List.cons_append, List.map_cons, List.map_append,
        List.append_assoc] at here there ⊢
      refine readItems_next here (skip_cons rfl) ?_
      rw [front]
      exact there
termination_by fuel

theorem readFields_chars (depth : Nat) (name : Text) (item : Json) (others : List (Text × Json))
    (proper : ProperFields ((name, item) :: others))
    (decimals : ∀ x ∈ fieldDoubles ((name, item) :: others), ReadsBack x) (fuel : Nat)
    (enough : 2 * ((chars layout depth item).length + (fieldChars layout depth others).length) + 1 ≤
      fuel) (closing rest : List CodePoint) (ends : Ends closing)
    (closes : skip closing = .char '\x7d' :: rest) :
    readFields fuel ((textChars name ++ ':' :: ' ' :: chars layout depth item ++
      fieldChars layout depth others).map .char ++ closing) =
        .ok ((name, item) :: others, rest) := by
  obtain ⟨fuel, rfl⟩ : ∃ less, fuel = less + 1 := ⟨fuel - 1, by omega⟩
  rw [ProperFields] at proper
  rw [fieldDoubles] at decimals
  have here := readValue_chars depth item proper.2.1
    (fun x member => decimals x (List.mem_append_left _ member)) fuel (by omega) _
    (ends_fieldChars layout depth others ends)
  have front := skip_chars [' '] (List.forall_mem_singleton.mpr rfl) layout depth item
    ((fieldChars layout depth others).map .char ++ closing)
  rw [List.map_singleton, List.singleton_append] at front
  rw [← front] at here
  have named (opening rest : List CodePoint) :
      readText opening ((name.points.flatMap escapePoint).map .char ++ .char '"' :: rest) =
        .ok (name.points, rest) := readText_escapes proper.1
  rw [textChars]
  simp only [List.cons_append, List.map_cons, List.map_append, List.append_assoc,
    List.nil_append]
  match others with
  | [] =>
      rw [fieldChars] at here ⊢
      exact readFields_last (named _ _) here closes
  | (nextName, next) :: later =>
      obtain ⟨blanks, comma, spaces⟩ := exists_separator layout depth
      rw [fieldChars, comma] at here enough ⊢
      have there := readFields_chars depth nextName next later proper.2.2
        (fun x member => decimals x (List.mem_append_right _ member)) fuel (by
          simp only [List.length_append, List.length_cons] at enough
          omega) closing rest ends closes
      have behind := skip_append blanks spaces (show isSpace (.char '"') = false from rfl)
      rw [textChars] at here there ⊢
      simp only [List.cons_append, List.map_cons, List.map_append,
        List.append_assoc] at here there ⊢
      refine readFields_next (named _ _) here (skip_cons rfl) ?_
      rw [behind]
      exact there
termination_by fuel

end

theorem parse_chars {value : Json} (proper : value.Proper)
    (decimals : ∀ x ∈ value.doubles, ReadsBack x) :
    parse (Text.ofChars (chars layout 0 value)) = .ok value := by
  have read :=
    readValue_chars layout 0 value proper decimals (2 * (chars layout 0 value).length + 2)
    (by omega) [] nofun
  obtain ⟨start, tail, front, solid, _, noMark⟩ := chars_start layout 0 value
  rw [List.append_nil] at read
  rw [parse, Text.points_ofChars, readAll, List.length_map]
  · rw [front, List.map_cons] at read ⊢
    rw [skip_cons solid, read]
    rfl
  · rintro _ same
    rw [front] at same
    exact noMark (CodePoint.char.inj (List.cons.inj same).1)

/-- **A value written with one item per line is read back.** -/
theorem parse_pretty {value : Json} (proper : value.Proper)
    (decimals : ∀ x ∈ value.doubles, ReadsBack x) :
    parse value.pretty = .ok value := by
  rw [Text.ofString, pretty, String.toList_ofList]
  exact parse_chars .indented proper decimals

/-- **A value written on one line is read back.** -/
theorem parse_compress {value : Json} (proper : value.Proper)
    (decimals : ∀ x ∈ value.doubles, ReadsBack x) :
    parse value.compress = .ok value := by
  rw [Text.ofString, compress, String.toList_ofList]
  exact parse_chars .line proper decimals

end Json

end PlanarSketch
