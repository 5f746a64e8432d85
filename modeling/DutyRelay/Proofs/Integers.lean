import DutyRelay.Proofs.Documents

/-!
# Integers in documents

The beacon node writes integers as decimal strings, and numbers are taken as well. What is taken as a word is said here
by the grammar of the two forms, and what is not is sorted by the reason. In a document that has been read, a value is
a word exactly if its grammar gives it a value that is not too large; nothing is wrapped around or cut off.

## Contents
- `Document.Denotes`: the natural number that a value stands for.
- `Document.IsRefused`: everything that is no word.
- `word?_eq_some_iff`, `word?_eq_none_iff`: what is read and what is refused.
- `exists_literal`, `exists_quoted`: the decimal text of every word, by itself and in quotation marks.
- `word?_exact`: all of this together.
-/

namespace DutyRelay.Json.Document

open Hex (utf8)

variable {bytes : List UInt8} {document value : Document} {pieces : List Piece} {numeral : Numeral}
  {letters : List Char} {n : Nat}

/-! ## The two forms -/

/-- A value of a text stands for a natural number if it is a numeral spelled in digits alone, or a string that holds
digits behind one plus sign or none. -/
inductive Denotes (bytes : List UInt8) : Document → Nat → Prop
  | literal {letters : List Char} {numeral n} (spelled : SpelledIn bytes letters numeral)
      (decimal : Word.Decimal letters n) : Denotes bytes (.number numeral) n
  | quoted {pieces : List Piece} {text n} (unescaped : textOf? pieces = some text)
      (unsigned : Word.Unsigned text.toList n) : Denotes bytes (.string pieces) n

/-- A value of a text is no word if it stands for a number that is too large, or for none. -/
inductive IsRefused (bytes : List UInt8) : Document → Prop
  | tooLarge {value : Document} {n} (denotes : Denotes bytes value n) (large : Word.top < n) : IsRefused bytes value
  /-- A numeral with a minus sign, a fraction or an exponent, whatever its value is. -/
  | inexact {letters : List Char} {numeral} (spelled : SpelledIn bytes letters numeral)
      (inexact : Numeral.Inexact letters) : IsRefused bytes (.number numeral)
  /-- A string that holds something else than digits behind one plus sign or none. -/
  | malformed {pieces : List Piece} {text} (unescaped : textOf? pieces = some text)
      (malformed : Word.Malformed text.toList) : IsRefused bytes (.string pieces)
  /-- A string that holds no text. -/
  | garbled {pieces : List Piece} (unescaped : textOf? pieces = none) : IsRefused bytes (.string pieces)
  | null : IsRefused bytes .null
  | bool (value : Bool) : IsRefused bytes (.bool value)
  | array (items : List Document) : IsRefused bytes (.array items)
  | object (fields : List (List Piece × Document)) : IsRefused bytes (.object fields)

/-! ## What is read -/

theorem word?_number_iff (h : SpelledIn bytes letters numeral) :
    (Document.number numeral).word? = some n ↔ Denotes bytes (.number numeral) n ∧ n ≤ Word.top := by
  constructor
  · intro hword
    obtain ⟨hdecimal, hle⟩ := h.spells.word?_eq_some_iff.mp hword
    exact ⟨.literal h hdecimal, hle⟩
  · rintro ⟨hdenotes, hle⟩
    cases hdenotes with
    | literal hspelled hdecimal => exact hspelled.spells.word?_eq_some_iff.mpr ⟨hdecimal, hle⟩

theorem word?_string {text : String} (htext : textOf? pieces = some text) :
    (Document.string pieces).word? = Word.ofText? Word.top text.toList := by
  show (textOf? pieces).bind _ = _
  rw [htext]
  rfl

theorem word?_string_iff :
    (Document.string pieces).word? = some n ↔ Denotes bytes (.string pieces) n ∧ n ≤ Word.top := by
  constructor
  · intro hword
    obtain ⟨text, htext, hword⟩ := Option.bind_eq_some_iff.mp hword
    obtain ⟨hunsigned, hle⟩ := Word.ofText?_eq_some_iff.mp hword
    exact ⟨.quoted htext hunsigned, hle⟩
  · rintro ⟨hdenotes, hle⟩
    cases hdenotes with
    | quoted htext hunsigned =>
      rw [word?_string htext]
      exact Word.ofText?_eq_some_iff.mpr ⟨hunsigned, hle⟩

/-- In a document that has been read, a value is a word exactly if it stands for a number that is not too large, -/
theorem word?_eq_some_iff (hread : ofBytes? bytes = some document) (hpart : IsPart value document) :
    value.word? = some n ↔ Denotes bytes value n ∧ n ≤ Word.top := by
  cases value with
  | number numeral =>
    obtain ⟨letters, hspelled⟩ := hpart.spelledIn hread
    exact word?_number_iff hspelled
  | string pieces => exact word?_string_iff
  | null | bool _ | array _ | object _ =>
    constructor
    · rintro ⟨⟩
    · rintro ⟨⟨⟩, -⟩

/-! ## What is refused -/

/-- Every value that has been read stands for a number, or it is refused. -/
theorem exists_denotes_or_refused (hread : ofBytes? bytes = some document) (hpart : IsPart value document) :
    (∃ n, Denotes bytes value n) ∨ IsRefused bytes value := by
  cases value with
  | null => exact .inr .null
  | bool value => exact .inr (.bool value)
  | array items => exact .inr (.array items)
  | object fields => exact .inr (.object fields)
  | number numeral =>
    obtain ⟨letters, hspelled⟩ := hpart.spelledIn hread
    obtain ⟨⟨n, hdecimal⟩, -⟩ | ⟨hinexact, -⟩ := hspelled.spells.decimal_or_inexact
    · exact .inl ⟨n, .literal hspelled hdecimal⟩
    · exact .inr (.inexact hspelled hinexact)
  | string pieces =>
    cases htext : textOf? pieces with
    | none => exact .inr (.garbled htext)
    | some text =>
      obtain ⟨n, hunsigned⟩ | hmalformed := Word.exists_unsigned_or_malformed text.toList
      · exact .inl ⟨n, .quoted htext hunsigned⟩
      · exact .inr (.malformed htext hmalformed)

theorem IsRefused.word?_ne_some (h : IsRefused bytes value) : value.word? ≠ some n := by
  intro hword
  cases h with
  | @tooLarge _ m hdenotes hlarge =>
    cases hdenotes with
    | literal hspelled hdecimal =>
      obtain ⟨hdecimal', hle⟩ := hspelled.spells.word?_eq_some_iff.mp hword
      obtain rfl : m = n := hdecimal.ofDigits_eq.symm.trans hdecimal'.ofDigits_eq
      exact absurd hle (Nat.not_le_of_lt hlarge)
    | quoted htext hunsigned =>
      rw [word?_string htext] at hword
      obtain ⟨hunsigned', hle⟩ := Word.ofText?_eq_some_iff.mp hword
      obtain rfl : m = n := hunsigned.unique hunsigned'
      exact absurd hle (Nat.not_le_of_lt hlarge)
  | inexact hspelled hinexact =>
    obtain ⟨hdecimal, -⟩ := hspelled.spells.word?_eq_some_iff.mp hword
    exact hinexact.not_decimal hdecimal
  | malformed htext hmalformed =>
    rw [word?_string htext] at hword
    obtain ⟨hunsigned, -⟩ := Word.ofText?_eq_some_iff.mp hword
    exact hmalformed.not_unsigned hunsigned
  | garbled htext =>
    have hstring : (textOf? _).bind _ = some n := hword
    rw [htext] at hstring
    cases hstring
  | null | bool _ | array _ | object _ => cases hword

/-- and nothing is read otherwise exactly if it is refused. -/
theorem word?_eq_none_iff (hread : ofBytes? bytes = some document) (hpart : IsPart value document) :
    value.word? = none ↔ IsRefused bytes value := by
  constructor
  · intro hnone
    obtain ⟨n, hdenotes⟩ | hrefused := exists_denotes_or_refused hread hpart
    · -- The number would have been read if it were not too large.
      refine .tooLarge hdenotes (Nat.lt_of_not_le fun hle => ?_)
      rw [(word?_eq_some_iff hread hpart).mpr ⟨hdenotes, hle⟩] at hnone
      cases hnone
    · exact hrefused
  · exact fun h => Option.eq_none_iff_forall_ne_some.mpr fun _ => h.word?_ne_some

/-! ## Every word in both forms -/

theorem lt_of_isDigit {c : Char} (h : c.isDigit = true) : c.toNat < 128 :=
  Nat.lt_of_le_of_lt (Char.isDigit_iff_toNat.mp h).2 (by decide)

/-- A digit is written as a byte that stands for itself. -/
theorem isPlain_of_mem_utf8 {digits : List Char} (h : ∀ c ∈ digits, c.isDigit = true) :
    ∀ byte ∈ utf8 digits, IsPlain byte := by
  intro byte hbyte
  obtain ⟨c, hc, hbyte⟩ := List.mem_flatMap.mp hbyte
  have hdigit := h c hc
  refine isPlain_of_mem_utf8EncodeChar ?_ ?_ ?_ byte hbyte
  · rintro rfl
    exact absurd hdigit (by decide)
  · rintro rfl
    exact absurd hdigit (by decide)
  · have hlow : 48 ≤ c.toNat := (Char.isDigit_iff_toNat.mp hdigit).1
    omega

theorem exists_literal (h : n ≤ Word.top) :
    ∃ document, ofBytes? (utf8 (Nat.toDigits 10 n)) = some document ∧ document.word? = some n := by
  have hspells := Numeral.spells_toDigits n
  have hdecimal := Word.decimal_toDigits n
  have hchars := map_ofUInt8_utf8 fun c hc => lt_of_isDigit (hdecimal.isDigit c hc)
  exact ⟨_, ofBytes?_numeral (hchars.symm ▸ hspells), hspells.word?_eq_some_iff.mpr ⟨hdecimal, h⟩⟩

theorem exists_quoted (h : n ≤ Word.top) :
    ∃ document, ofBytes? (utf8 ('"' :: Nat.toDigits 10 n ++ ['"'])) = some document ∧ document.word? = some n := by
  have hdecimal := Word.decimal_toDigits n
  have hbytes : utf8 ('"' :: Nat.toDigits 10 n ++ ['"']) = 0x22 :: utf8 (Nat.toDigits 10 n) ++ [0x22] := by
    unfold utf8
    rw [List.flatMap_append]
    rfl
  rw [hbytes]
  refine ⟨_, ofBytes?_quoted (isPlain_of_mem_utf8 hdecimal.isDigit), ?_⟩
  rw [word?_string (textOf?_utf8 _), String.toList_ofList]
  exact Word.ofText?_eq_some_iff.mpr ⟨.plain hdecimal, h⟩

/-- **Integers are read exactly by their grammar.** Of the values in a document, those are words that stand for a number
within the bound, and everything else is refused; and the decimal text of every word is read as that word, by itself and
in quotation marks. -/
theorem word?_exact :
    (∀ bytes document value, ofBytes? bytes = some document → IsPart value document →
      (∀ n, value.word? = some n ↔ Denotes bytes value n ∧ n ≤ Word.top) ∧
        (value.word? = none ↔ IsRefused bytes value)) ∧
    ∀ n ≤ Word.top, ∃ literal quoted,
      ofBytes? (utf8 (Nat.toDigits 10 n)) = some literal ∧ literal.word? = some n ∧
        ofBytes? (utf8 ('"' :: Nat.toDigits 10 n ++ ['"'])) = some quoted ∧ quoted.word? = some n := by
  constructor
  · intro bytes document value hread hpart
    exact ⟨fun n => word?_eq_some_iff hread hpart, word?_eq_none_iff hread hpart⟩
  · intro n hn
    obtain ⟨literal, hliteral, hword⟩ := exists_literal hn
    obtain ⟨quoted, hquoted, hword'⟩ := exists_quoted hn
    exact ⟨literal, quoted, hliteral, hword, hquoted, hword'⟩

/-- A text with an integer in quotation marks, behind a plus sign and a zero, and with the negative zero. -/
def plusAndMinus : List UInt8 := utf8 ['[', '"', '+', '0', '7', '"', ',', '-', '0', ']']

/-- Of the two the first one is a word and the second one is not. The largest word is read as well. -/
theorem word?_exact_plus_minus :
    ∃ quoted negative, ofBytes? plusAndMinus = some (.array [quoted, negative]) ∧
      Denotes plusAndMinus quoted 7 ∧ IsRefused plusAndMinus negative ∧
      ∃ literal, ofBytes? (utf8 (Nat.toDigits 10 Word.top)) = some literal ∧ literal.word? = some Word.top := by
  have hread : ofBytes? plusAndMinus =
      some (.array [.string [.byte 0x2b, .byte 0x30, .byte 0x37], .number ⟨true, ['0'], none, none⟩]) := by rfl
  obtain ⟨hexact, hforms⟩ := word?_exact
  obtain ⟨hquoted, _⟩ := hexact _ _ _ hread (.item List.mem_cons_self .self)
  obtain ⟨_, hnegative⟩ := hexact _ _ _ hread (.item (List.mem_cons_of_mem _ List.mem_cons_self) .self)
  obtain ⟨literal, _, hliteral, hword, _⟩ := hforms Word.top (Nat.le_refl _)
  have hseven : (string [.byte 0x2b, .byte 0x30, .byte 0x37]).word? = some 7 := by decide +kernel
  exact ⟨_, _, hread, ((hquoted 7).mp hseven).1, hnegative.mp rfl, literal, hliteral, hword⟩

end DutyRelay.Json.Document
