import DutyRelay.PublicKey

/-!
# Text that can be read as a key

A key is read from hexadecimal text, and the reading goes through the bytes of the text two by two. This file says
which texts come out: those that consist of digits, and of an even number of them, once a leading `0x` has been
taken off. A character that is no digit always shows in the bytes, since a character beyond the first 128 is
written in bytes of which none is a digit.

## Contents
- `Hex.IsDigit`, `Hex.IsPaired`: digits, and an even number of them.
- `digitValue?_isSome_iff`, `digits_utf8EncodeChar`, `digits_utf8`: digits among the bytes of a text.
- `digitValue?_of_isDigit`, `digit_inj`, `digit_spec`, `isDigit_toLower_iff`, `utf8_digit`: digits in lower case.
- `exists_decodePairs_iff`, `exists_decode_iff`: what can be decoded.
- `PublicKey.exists_ofText_iff`: what can be read as a key.
-/

namespace DutyRelay

namespace Hex

variable {c : Char} {text : List Char} {bytes : List UInt8} {m n : Nat}

/-! ## Digits -/

/-- A digit, in either letter case. -/
def IsDigit (c : Char) : Prop :=
  ('0' ≤ c ∧ c ≤ '9') ∨ ('a' ≤ c ∧ c ≤ 'f') ∨ ('A' ≤ c ∧ c ≤ 'F')

/-- Digits only, and an even number of them. -/
def IsPaired (text : List Char) : Prop := (∀ c ∈ text, IsDigit c) ∧ text.length % 2 = 0

/-- The number of a digit, as a character or as a byte. -/
def IsDigitNumber (n : Nat) : Prop := (48 ≤ n ∧ n ≤ 57) ∨ (97 ≤ n ∧ n ≤ 102) ∨ (65 ≤ n ∧ n ≤ 70)

theorem isDigit_iff : IsDigit c ↔ IsDigitNumber c.toNat := by
  unfold IsDigit IsDigitNumber
  simp only [Char.le_def, UInt32.le_iff_toNat_le]
  rfl

theorem IsDigit.toNat_lt (h : IsDigit c) : c.toNat < 128 := by
  have hnumber := isDigit_iff.mp h
  unfold IsDigitNumber at hnumber
  omega

instance : DecidablePred IsDigitNumber := fun _ => inferInstanceAs (Decidable (_ ∨ _))

instance : DecidablePred IsDigit := fun _ => decidable_of_iff _ isDigit_iff.symm

instance : DecidablePred IsPaired := fun text =>
  -- By name, since a search could come upon the instance that goes through all characters there are.
  @instDecidableAnd _ _ (List.decidableBAll IsDigit text) (inferInstanceAs (Decidable (_ = _)))

theorem digitValue?_isSome_iff {byte : UInt8} :
    (digitValue? byte).isSome = true ↔ IsDigitNumber byte.toNat := by
  unfold digitValue? IsDigitNumber
  by_cases hdecimal : 48 ≤ byte.toNat ∧ byte.toNat ≤ 57
  · simp [hdecimal]
  · by_cases hlower : 97 ≤ byte.toNat ∧ byte.toNat ≤ 102
    · simp [hdecimal, hlower]
    · by_cases hupper : 65 ≤ byte.toNat ∧ byte.toNat ≤ 70
      · simp [hdecimal, hlower, hupper]
      · simp [hdecimal, hlower, hupper]

/-! ## The bytes of a text -/

/-- One of the first 128 characters is written as the byte of its number, -/
theorem utf8EncodeChar_of_lt (h : c.toNat < 128) :
    String.utf8EncodeChar c = [UInt8.ofNat c.toNat] := by
  have hle : c.val.toNat ≤ 127 := Nat.le_of_lt_succ h
  unfold String.utf8EncodeChar
  rw [if_pos hle]
  rfl

/-- and any other one in bytes from 128 on. -/
theorem le_of_mem_utf8EncodeChar (h : 128 ≤ c.toNat) {byte : UInt8}
    (hbyte : byte ∈ String.utf8EncodeChar c) : 128 ≤ byte.toNat := by
  have hlong : ¬ c.val.toNat ≤ 127 := Nat.not_le_of_lt h
  unfold String.utf8EncodeChar at hbyte
  simp only [if_neg hlong] at hbyte
  -- Two, three or four bytes, each of them marked by its highest bit.
  split at hbyte
  · simp only [List.mem_cons, List.not_mem_nil, or_false] at hbyte
    rcases hbyte with rfl | rfl <;> simp only [UInt8.toNat_ofNat'] <;> omega
  · split at hbyte
    · simp only [List.mem_cons, List.not_mem_nil, or_false] at hbyte
      rcases hbyte with rfl | rfl | rfl <;> simp only [UInt8.toNat_ofNat'] <;> omega
    · simp only [List.mem_cons, List.not_mem_nil, or_false] at hbyte
      rcases hbyte with rfl | rfl | rfl | rfl <;> simp only [UInt8.toNat_ofNat'] <;> omega

/-- A digit is written as one byte, and its number is that of a digit. -/
theorem IsDigit.utf8EncodeChar (h : IsDigit c) :
    String.utf8EncodeChar c = [UInt8.ofNat c.toNat] ∧ (UInt8.ofNat c.toNat).toNat = c.toNat := by
  exact ⟨utf8EncodeChar_of_lt h.toNat_lt, UInt8.toNat_ofNat_of_lt' (Nat.lt_trans h.toNat_lt (by decide))⟩

/-- **A character is a digit exactly if it is written in digits.** -/
theorem digits_utf8EncodeChar :
    (∀ byte ∈ String.utf8EncodeChar c, (digitValue? byte).isSome = true) ↔ IsDigit c := by
  constructor
  · intro hdigits
    by_cases hlt : c.toNat < 128
    · rw [utf8EncodeChar_of_lt hlt] at hdigits
      have hnumber := digitValue?_isSome_iff.mp (hdigits _ List.mem_cons_self)
      rw [UInt8.toNat_ofNat_of_lt' (Nat.lt_trans hlt (by decide))] at hnumber
      exact isDigit_iff.mpr hnumber
    · -- None of the bytes of another character is a digit, and there is at least one.
      have hnonempty : String.utf8EncodeChar c ≠ [] := by
        rw [← List.length_pos_iff, String.length_utf8EncodeChar]
        exact Char.utf8Size_pos c
      obtain ⟨byte, hbyte⟩ := List.exists_mem_of_ne_nil _ hnonempty
      have hnumber := digitValue?_isSome_iff.mp (hdigits byte hbyte)
      have hle := le_of_mem_utf8EncodeChar (Nat.le_of_not_lt hlt) hbyte
      unfold IsDigitNumber at hnumber
      omega
  · intro hdigit byte hbyte
    obtain ⟨hbytes, hnumber⟩ := hdigit.utf8EncodeChar
    rw [hbytes] at hbyte
    obtain rfl := List.mem_singleton.mp hbyte
    rw [digitValue?_isSome_iff, hnumber]
    exact isDigit_iff.mp hdigit

theorem digits_utf8 :
    (∀ byte ∈ utf8 text, (digitValue? byte).isSome = true) ↔ ∀ c ∈ text, IsDigit c := by
  simp only [utf8, List.mem_flatMap, forall_exists_index, and_imp, ← digits_utf8EncodeChar]
  exact ⟨fun h c hc byte hbyte => h byte c hc hbyte, fun h byte c hc hbyte => h c hc byte hbyte⟩

theorem length_utf8 (h : ∀ c ∈ text, IsDigit c) : (utf8 text).length = text.length := by
  induction text with
  | nil => rfl
  | cons c rest ih =>
    have hrest : ∀ c ∈ rest, IsDigit c := fun c hc => h c (List.mem_cons_of_mem _ hc)
    have hcons : utf8 (c :: rest) = String.utf8EncodeChar c ++ utf8 rest := rfl
    rw [hcons, (h c List.mem_cons_self).utf8EncodeChar.1, List.singleton_append, List.length_cons,
      List.length_cons, ih hrest]

/-! ## Digits in lower case -/

/-- A digit has a value, and the value is written as the digit in lower case. -/
theorem digitValue?_of_isDigit (h : IsDigit c) :
    ∃ v < 16, digitValue? (UInt8.ofNat c.toNat) = some v ∧ digit v = c.toLower := by
  have hall : ∀ n < 128, IsDigit (Char.ofNat n) → ∃ v < 16,
      digitValue? (UInt8.ofNat (Char.ofNat n).toNat) = some v ∧ digit v = (Char.ofNat n).toLower := by decide
  have hc := hall c.toNat h.toNat_lt
  rw [Char.ofNat_toNat] at hc
  exact hc h

theorem digit_inj (hm : m < 16) (hn : n < 16) (h : digit m = digit n) : m = n := by
  have hall : ∀ m < 16, ∀ n < 16, digit m = digit n → m = n := by decide
  exact hall m hm n hn h

/-- What is written is a digit, in lower case. -/
theorem digit_spec (h : n < 16) : IsDigit (digit n) ∧ (digit n).toLower = digit n := by
  have hall : ∀ n < 16, IsDigit (digit n) ∧ (digit n).toLower = digit n := by decide
  exact hall n h

/-- A character is a digit exactly if it is one in lower case. -/
theorem isDigit_toLower_iff : IsDigit c.toLower ↔ IsDigit c := by
  by_cases hlt : c.toNat < 128
  · have hall : ∀ n < 128, IsDigit (Char.ofNat n).toLower ↔ IsDigit (Char.ofNat n) := by decide
    have hc := hall c.toNat hlt
    rwa [Char.ofNat_toNat] at hc
  · -- There are no capital letters among the other characters.
    have hlower : c.toLower = c := by
      apply dif_neg
      rintro ⟨_, hle⟩
      exact hlt (Nat.lt_of_le_of_lt (UInt32.le_iff_toNat_le.mp hle) (by decide))
    rw [hlower]

/-- What is written is one byte, and it is read as the value that was written. -/
theorem utf8_digit (h : n < 16) : ∃ byte, utf8 [digit n] = [byte] ∧ digitValue? byte = some n := by
  obtain ⟨hdigit, hlower⟩ := digit_spec h
  obtain ⟨v, hv, hvalue, hwritten⟩ := digitValue?_of_isDigit hdigit
  obtain rfl : v = n := digit_inj hv h (hwritten.trans hlower)
  refine ⟨UInt8.ofNat (digit v).toNat, ?_, hvalue⟩
  rw [← hdigit.utf8EncodeChar.1]
  exact List.flatMap_singleton _ _

/-! ## What can be decoded -/

/-- Bytes are decoded if they are digits and pair off. -/
theorem exists_decodePairs_iff (position : Nat) (bytes : List UInt8) :
    (∃ decoded, decodePairs position bytes = .ok decoded) ↔
      (∀ byte ∈ bytes, (digitValue? byte).isSome = true) ∧ bytes.length % 2 = 0 := by
  fun_induction decodePairs position bytes with
  | case1 => simp
  | case2 => simp
  | case3 position high low rest hhigh => simp [hhigh]
  | case4 position high low rest h hlow _ => simp [hlow]
  | case5 position high low rest h l hlow hhigh ih =>
    have hmap : (∃ decoded, (decodePairs (position + 2) rest).map (UInt8.ofNat (16 * h + l) :: ·) =
        .ok decoded) ↔ ∃ decoded, decodePairs (position + 2) rest = .ok decoded := by
      cases decodePairs (position + 2) rest <;> simp [Except.map]
    have hlength : (high :: low :: rest).length % 2 = rest.length % 2 := by
      simp only [List.length_cons]
      omega
    rw [hmap, ih, hlength]
    simp [hhigh, hlow]

/-- **Text is decoded exactly if it consists of digits, and of an even number of them.** -/
theorem exists_decode_iff : (∃ decoded, decode text = .ok decoded) ↔ IsPaired text := by
  have hpairs := exists_decodePairs_iff 0 (utf8 text)
  unfold decode IsPaired
  rw [digits_utf8] at hpairs
  by_cases hodd : (utf8 text).length % 2 = 1
  · simp only [if_pos hodd, reduceCtorEq, exists_false, false_iff]
    rintro ⟨hdigits, heven⟩
    rw [length_utf8 hdigits] at hodd
    omega
  · simp only [if_neg hodd, hpairs]
    refine and_congr_right fun hdigits => ?_
    rw [length_utf8 hdigits]

end Hex

/-- **What can be read as a key**: digits in pairs, with or without the `0x` in front. -/
theorem PublicKey.exists_ofText_iff {text : String} :
    (∃ key, PublicKey.ofText text = .ok key) ↔ Hex.IsPaired (Hex.withoutMark text.toList) := by
  rw [← Hex.exists_decode_iff]
  unfold PublicKey.ofText
  cases Hex.decode (Hex.withoutMark text.toList) <;> simp [Except.map]

end DutyRelay
