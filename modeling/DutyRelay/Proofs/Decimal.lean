import DutyRelay.Word
import Mathlib.Data.List.Induction

/-!
# Decimal text

A decimal numeral is given by its place values: a digit stands for itself, and one digit more multiplies by ten what is
in front of it. Leading zeros are allowed, and so is one plus sign where words are read from text. What is read is
compared with this grammar here, and what is not read is sorted by what is wrong with it.

## Contents
- `Word.Decimal`, `Word.Unsigned`: the grammar, with the values.
- `decimal_iff`, `ofText?_eq_some_iff`: what is read is exactly that.
- `decimal_toDigits`, `head?_toDigits`: the decimal text of every number, without leading zeros.
- `Word.Malformed`, `exists_unsigned_or_malformed`: everything else.
-/

namespace DutyRelay.Word

variable {text digits : List Char} {c : Char} {bound m n : Nat}

/-! ## The grammar -/

/-- A row of decimal digits, at least one, and the number that it stands for. -/
inductive Decimal : List Char → Nat → Prop
  | digit {d} (h : d < 10) : Decimal [Nat.digitChar d] d
  | append {digits : List Char} {n d} (front : Decimal digits n) (h : d < 10) :
      Decimal (digits ++ [Nat.digitChar d]) (10 * n + d)

/-- A row of decimal digits, behind one plus sign or none. -/
inductive Unsigned : List Char → Nat → Prop
  | plain {digits : List Char} {n} (h : Decimal digits n) : Unsigned digits n
  | plus {digits : List Char} {n} (h : Decimal digits n) : Unsigned ('+' :: digits) n

theorem isDigit_iff : c.isDigit = true ↔ ∃ d < 10, c = Nat.digitChar d := by
  constructor
  · intro h
    obtain ⟨hlow, hhigh⟩ := Char.isDigit_iff_toNat.mp h
    have hlow : 48 ≤ c.toNat := hlow
    have hhigh : c.toNat ≤ 57 := hhigh
    have hlt : c.toNat - 48 < 10 := by omega
    refine ⟨c.toNat - 48, hlt, ?_⟩
    apply Char.toNat_inj.mp
    rw [Nat.toNat_digitChar_of_lt_ten hlt]
    omega
  · rintro ⟨d, hd, rfl⟩
    rw [Nat.isDigit_digitChar]
    exact decide_eq_true hd

/-! ### The values -/

theorem ofDigits_concat (digits : List Char) (c : Char) :
    ofDigits (digits ++ [c]) = 10 * ofDigits digits + (c.toNat - 48) := by
  simp [ofDigits]

theorem ofDigits_concat_digitChar {d : Nat} (h : d < 10) :
    ofDigits (digits ++ [Nat.digitChar d]) = 10 * ofDigits digits + d := by
  rw [ofDigits_concat, Nat.toNat_digitChar_sub_48_of_lt_ten h]

theorem Decimal.ne_nil (h : Decimal digits n) : digits ≠ [] := by
  cases h <;> simp

theorem Decimal.isDigit (h : Decimal digits n) : ∀ c ∈ digits, c.isDigit = true := by
  induction h with
  | digit hd =>
    intro c hc
    exact isDigit_iff.mpr ⟨_, hd, List.mem_singleton.mp hc⟩
  | append _ hd ih =>
    intro c hc
    obtain hc | hc := List.mem_append.mp hc
    · exact ih c hc
    · exact isDigit_iff.mpr ⟨_, hd, List.mem_singleton.mp hc⟩

theorem Decimal.ofDigits_eq (h : Decimal digits n) : ofDigits digits = n := by
  induction h with
  | digit hd => simp [ofDigits, Nat.toNat_digitChar_sub_48_of_lt_ten hd]
  | append _ hd ih => rw [ofDigits_concat_digitChar hd, ih]

theorem decimal_ofDigits (hne : digits ≠ []) (h : ∀ c ∈ digits, c.isDigit = true) :
    Decimal digits (ofDigits digits) := by
  induction digits using List.reverseRecOn with
  | nil => exact absurd rfl hne
  | append_singleton front c ih =>
    obtain ⟨d, hd, rfl⟩ := isDigit_iff.mp (h c (by simp))
    rw [ofDigits_concat_digitChar hd]
    by_cases hfront : front = []
    · subst hfront
      simpa [ofDigits] using Decimal.digit hd
    · exact .append (ih hfront fun c hc => h c (List.mem_append_left _ hc)) hd

/-- **A row of digits has its value, and nothing else has one.** -/
theorem decimal_iff :
    Decimal digits n ↔ digits ≠ [] ∧ (∀ c ∈ digits, c.isDigit = true) ∧ ofDigits digits = n := by
  constructor
  · exact fun h => ⟨h.ne_nil, h.isDigit, h.ofDigits_eq⟩
  · rintro ⟨hne, hdigits, rfl⟩
    exact decimal_ofDigits hne hdigits

/-- Every number has a decimal text, -/
theorem decimal_toDigits (n : Nat) : Decimal (Nat.toDigits 10 n) n := by
  induction n using Nat.strongRecOn with
  | ind n ih =>
    by_cases hsmall : n < 10
    · rw [Nat.toDigits_of_lt_base hsmall]
      exact .digit hsmall
    · have hfront := ih (n / 10) (by omega)
      have hwhole := hfront.append (Nat.mod_lt n (by decide : 0 < 10))
      rw [Nat.div_add_mod] at hwhole
      rwa [Nat.toDigits_of_base_le (by decide) (Nat.le_of_not_lt hsmall)]

/-- which does not begin with a zero unless that is all of it. -/
theorem head?_toDigits (n : Nat) : (Nat.toDigits 10 n).length = 1 ∨ (Nat.toDigits 10 n).head? ≠ some '0' := by
  induction n using Nat.strongRecOn with
  | ind n ih =>
    by_cases hsmall : n < 10
    · rw [Nat.toDigits_of_lt_base hsmall]
      exact .inl rfl
    · -- The first digit is that of the number in front, which is not zero.
      right
      have hnonzero : n / 10 ≠ 0 := by omega
      rw [Nat.toDigits_of_base_le (by decide) (Nat.le_of_not_lt hsmall), List.head?_append]
      by_cases hfront : n / 10 < 10
      · rw [Nat.toDigits_of_lt_base hfront]
        simpa using hnonzero
      · obtain hone | hhead := ih (n / 10) (by omega)
        · exact absurd ((Nat.length_toDigits_le_iff (k := 1) (by decide) (by decide)).mp (Nat.le_of_eq hone)) hfront
        · have hne : (Nat.toDigits 10 (n / 10)).head? ≠ none := by simp
          rwa [Option.or_of_isSome (Option.isSome_iff_ne_none.mpr hne)]

/-! ## What is read -/

/-- Digits have to be there and nothing else, with a value within the bound. -/
def ofDigits? (bound : Nat) (digits : List Char) : Option Nat :=
  if digits ≠ [] ∧ digits.all Char.isDigit then
    if ofDigits digits ≤ bound then some (ofDigits digits) else none
  else none

theorem ofDigits?_eq_some_iff : ofDigits? bound digits = some n ↔ Decimal digits n ∧ n ≤ bound := by
  unfold ofDigits?
  simp only [decimal_iff, Option.ite_none_right_eq_some, Option.some.injEq, List.all_eq_true]
  constructor
  · rintro ⟨⟨hne, hdigits⟩, hle, rfl⟩
    exact ⟨⟨hne, hdigits, rfl⟩, hle⟩
  · rintro ⟨⟨hne, hdigits, rfl⟩, hle⟩
    exact ⟨⟨hne, hdigits⟩, hle, rfl⟩

theorem ofText?_plus (bound : Nat) (digits : List Char) : ofText? bound ('+' :: digits) = ofDigits? bound digits := rfl

theorem ofText?_of_head_ne (h : text.head? ≠ some '+') : ofText? bound text = ofDigits? bound text := by
  unfold ofText?
  simp only
  split
  · exact absurd rfl h
  · rfl

/-- **Text is read exactly if it is a row of digits behind one plus sign or none, with a value within the bound.** -/
theorem ofText?_eq_some_iff : ofText? bound text = some n ↔ Unsigned text n ∧ n ≤ bound := by
  constructor
  · intro h
    by_cases hplus : text.head? = some '+'
    · obtain ⟨digits, rfl⟩ := List.head?_eq_some_iff.mp hplus
      rw [ofText?_plus] at h
      obtain ⟨hdecimal, hle⟩ := ofDigits?_eq_some_iff.mp h
      exact ⟨.plus hdecimal, hle⟩
    · rw [ofText?_of_head_ne hplus] at h
      obtain ⟨hdecimal, hle⟩ := ofDigits?_eq_some_iff.mp h
      exact ⟨.plain hdecimal, hle⟩
  · rintro ⟨hunsigned, hle⟩
    cases hunsigned with
    | plus hdecimal => exact ofDigits?_eq_some_iff.mpr ⟨hdecimal, hle⟩
    | plain hdecimal =>
      have hplus : text.head? ≠ some '+' := by
        intro hhead
        have hdigit := hdecimal.isDigit '+' (List.mem_of_head? hhead)
        exact absurd hdigit (by decide)
      rw [ofText?_of_head_ne hplus]
      exact ofDigits?_eq_some_iff.mpr ⟨hdecimal, hle⟩

/-- Text stands for one number at most. -/
theorem Unsigned.unique (hm : Unsigned text m) (hn : Unsigned text n) : m = n := by
  have hread := ofText?_eq_some_iff.mpr ⟨hm, Nat.le_max_left m n⟩
  have hread' := ofText?_eq_some_iff.mpr ⟨hn, Nat.le_max_right m n⟩
  exact Option.some.inj (hread.symm.trans hread')

/-! ## What is refused -/

/-- What can be wrong with text that is no unsigned number. -/
inductive Malformed : List Char → Prop
  | empty : Malformed []
  | plusAlone : Malformed ['+']
  /-- A character that is neither a digit nor a plus sign, such as a blank, a minus sign, a point or a letter. -/
  | stray {text : List Char} {c : Char} (mem : c ∈ text) (digit : ¬ c.isDigit = true) (plus : c ≠ '+') : Malformed text
  /-- A plus sign that is not in front. -/
  | latePlus {rest : List Char} {c : Char} (mem : '+' ∈ rest) : Malformed (c :: rest)

theorem Malformed.not_unsigned (h : Malformed text) : ¬ Unsigned text n := by
  intro hunsigned
  cases h with
  | empty =>
    cases hunsigned with
    | plain hdecimal => exact hdecimal.ne_nil rfl
  | plusAlone =>
    cases hunsigned with
    | plain hdecimal => exact absurd (hdecimal.isDigit '+' List.mem_cons_self) (by decide)
    | plus hdecimal => exact hdecimal.ne_nil rfl
  | stray hmem hdigit hplus =>
    cases hunsigned with
    | plain hdecimal => exact hdigit (hdecimal.isDigit _ hmem)
    | plus hdecimal =>
      obtain rfl | hmem := List.mem_cons.mp hmem
      · exact hplus rfl
      · exact hdigit (hdecimal.isDigit _ hmem)
  | latePlus hmem =>
    cases hunsigned with
    | plain hdecimal => exact absurd (hdecimal.isDigit '+' (List.mem_cons_of_mem _ hmem)) (by decide)
    | plus hdecimal => exact absurd (hdecimal.isDigit '+' hmem) (by decide)

/-- Nothing else can be wrong. -/
theorem exists_unsigned_or_malformed (text : List Char) : (∃ n, Unsigned text n) ∨ Malformed text := by
  have hrest : ∀ digits : List Char, digits ≠ [] → '+' ∉ digits → (∃ n, Decimal digits n) ∨
      ∃ c ∈ digits, ¬ c.isDigit = true ∧ c ≠ '+' := by
    intro digits hne hplus
    by_cases hdigits : ∀ c ∈ digits, c.isDigit = true
    · exact .inl ⟨_, decimal_ofDigits hne hdigits⟩
    · push Not at hdigits
      obtain ⟨c, hmem, hdigit⟩ := hdigits
      exact .inr ⟨c, hmem, hdigit, fun h => hplus (h ▸ hmem)⟩
  cases text with
  | nil => exact .inr .empty
  | cons c rest =>
    by_cases hlate : '+' ∈ rest
    · exact .inr (.latePlus hlate)
    by_cases hfront : c = '+'
    · subst hfront
      by_cases hnil : rest = []
      · subst hnil
        exact .inr .plusAlone
      obtain ⟨n, hdecimal⟩ | ⟨c, hmem, hdigit, hplus⟩ := hrest rest hnil hlate
      · exact .inl ⟨n, .plus hdecimal⟩
      · exact .inr (.stray (List.mem_cons_of_mem _ hmem) hdigit hplus)
    · have hnone : '+' ∉ c :: rest := by
        rw [List.mem_cons]
        exact fun h => h.elim (fun h => hfront h.symm) hlate
      obtain ⟨n, hdecimal⟩ | ⟨c, hmem, hdigit, hplus⟩ := hrest (c :: rest) (List.cons_ne_nil _ _) hnone
      · exact .inl ⟨n, .plain hdecimal⟩
      · exact .inr (.stray hmem hdigit hplus)

end DutyRelay.Word
