import DutyRelay.Payload
import DutyRelay.Proofs.KeyText
import Mathlib.Data.List.Induction
import Mathlib.Logic.ExistsUnique

/-!
# Keys and their texts

A key is written in pairs of lower-case digits, and it is read in either letter case. One law says all there is to say
about the digits: text is decoded to the bytes whose written form it is, up to letter case. So writing and reading are
inverse to each other; two texts are read as one key exactly if they differ in nothing but the letter case; and no two
keys have one text. With the `0x` in front it is the same. The mark itself is never mistaken for digits, although it
begins with one.

## Contents
- `pair_ofNat`, `pair_inj`: the two digits of a byte.
- `encode_injective`, `decode_eq_ok_iff`: rows of digits.
- `PublicKey.Unmarked`, `unmarked_iff`, `exists_unmarked`: text without its mark.
- `ofText_eq_ok_iff`: what a text is read as.
- `text_codec`: all of this for keys.
-/

namespace DutyRelay

namespace Hex

variable {text : List Char} {bytes other : List UInt8} {b b' : UInt8} {m n position : Nat}

/-! ## Bytes -/

theorem halves_lt (b : UInt8) : b.toNat / 16 < 16 ∧ b.toNat % 16 < 16 := by
  have hlt : b.toNat < 256 := b.toNat_lt
  omega

/-- The byte of two digits is written in these digits. -/
theorem pair_ofNat (hm : m < 16) (hn : n < 16) : pair (UInt8.ofNat (16 * m + n)) = [digit m, digit n] := by
  have hlt : 16 * m + n < 256 := by omega
  have hdiv : (16 * m + n) / 16 = m := by omega
  have hmod : (16 * m + n) % 16 = n := by omega
  unfold pair
  rw [UInt8.toNat_ofNat_of_lt' hlt, hdiv, hmod]

theorem pair_inj (h : pair b = pair b') : b = b' := by
  unfold pair at h
  simp only [List.cons.injEq, and_true] at h
  obtain ⟨hhigh, hlow⟩ := h
  have hdiv := digit_inj (halves_lt b).1 (halves_lt b').1 hhigh
  have hmod := digit_inj (halves_lt b).2 (halves_lt b').2 hlow
  apply UInt8.toNat_inj.mp
  omega

/-! ## Rows of digits -/

/-- **No two rows of bytes have one written form.** -/
theorem encode_injective : Function.Injective encode := by
  intro bytes other h
  induction bytes generalizing other with
  | nil =>
    cases other with
    | nil => rfl
    | cons b' rest' => cases h
  | cons b rest ih =>
    cases other with
    | nil => cases h
    | cons b' rest' =>
      have hpairs : pair b ++ encode rest = pair b' ++ encode rest' := h
      obtain ⟨hpair, hrest⟩ := List.append_inj hpairs rfl
      rw [pair_inj hpair, ih hrest]

theorem isPaired_encode (bytes : List UInt8) : IsPaired (encode bytes) := by
  constructor
  · intro c hc
    obtain ⟨b, _, hc⟩ := List.mem_flatMap.mp hc
    simp only [pair, List.mem_cons, List.not_mem_nil, or_false] at hc
    rcases hc with rfl | rfl
    · exact (digit_spec (halves_lt b).1).1
    · exact (digit_spec (halves_lt b).2).1
  · induction bytes with
    | nil => rfl
    | cons b rest ih =>
      have hcons : encode (b :: rest) = pair b ++ encode rest := rfl
      rw [hcons, List.length_append, pair, List.length_cons, List.length_cons, List.length_nil]
      omega

theorem map_toLower_encode (bytes : List UInt8) : (encode bytes).map Char.toLower = encode bytes := by
  induction bytes with
  | nil => rfl
  | cons b rest ih =>
    have hcons : encode (b :: rest) = pair b ++ encode rest := rfl
    rw [hcons, List.map_append, ih]
    simp only [pair, List.map_cons, List.map_nil, (digit_spec (halves_lt b).1).2, (digit_spec (halves_lt b).2).2]

theorem isPaired_map_toLower_iff : IsPaired (text.map Char.toLower) ↔ IsPaired text := by
  unfold IsPaired
  simp only [List.forall_mem_map, isDigit_toLower_iff, List.length_map]

/-- Digits are decoded two by two to the bytes that are written like that, up to letter case. -/
theorem exists_decodePairs (hdigits : ∀ c ∈ text, IsDigit c) (heven : text.length % 2 = 0) :
    ∃ bytes, decodePairs position (utf8 text) = .ok bytes ∧ encode bytes = text.map Char.toLower := by
  induction text using List.twoStepInduction generalizing position with
  | nil => exact ⟨[], rfl, rfl⟩
  | singleton c => cases heven
  | cons_cons c d rest ih _ =>
    obtain ⟨hc, hrest⟩ := List.forall_mem_cons.mp hdigits
    obtain ⟨hd, hrest⟩ := List.forall_mem_cons.mp hrest
    obtain ⟨h, hlt, hvalue, hlower⟩ := digitValue?_of_isDigit hc
    obtain ⟨l, hlt', hvalue', hlower'⟩ := digitValue?_of_isDigit hd
    have hlength : rest.length % 2 = 0 := by
      rw [List.length_cons, List.length_cons] at heven
      omega
    obtain ⟨bytes, hbytes, hencode⟩ := @ih (position + 2) hrest hlength
    have hcons : utf8 (c :: d :: rest) = UInt8.ofNat c.toNat :: UInt8.ofNat d.toNat :: utf8 rest := by
      unfold utf8
      rw [List.flatMap_cons, List.flatMap_cons, hc.utf8EncodeChar.1, hd.utf8EncodeChar.1]
      rfl
    refine ⟨UInt8.ofNat (16 * h + l) :: bytes, ?_, ?_⟩
    · rw [hcons]
      unfold decodePairs
      simp only [hvalue, hvalue', hbytes]
      rfl
    · show pair (UInt8.ofNat (16 * h + l)) ++ encode bytes = _
      rw [pair_ofNat hlt hlt', hencode, hlower, hlower']
      rfl

/-- **Text is decoded to the bytes whose written form it is, up to letter case.** -/
theorem decode_eq_ok_iff : decode text = .ok bytes ↔ encode bytes = text.map Char.toLower := by
  have hread : IsPaired text → ∃ bytes, decode text = .ok bytes ∧ encode bytes = text.map Char.toLower := by
    rintro ⟨hdigits, heven⟩
    have hlength : ¬ (utf8 text).length % 2 = 1 := by
      rw [length_utf8 hdigits]
      omega
    unfold decode
    rw [if_neg hlength]
    exact exists_decodePairs hdigits heven
  constructor
  · intro h
    obtain ⟨bytes', hbytes', hencode⟩ := hread (exists_decode_iff.mp ⟨bytes, h⟩)
    cases h.symm.trans hbytes'
    exact hencode
  · intro h
    have hpaired : IsPaired text := isPaired_map_toLower_iff.mp (h ▸ isPaired_encode bytes)
    obtain ⟨bytes', hbytes', hencode⟩ := hread hpaired
    rwa [encode_injective (h.trans hencode.symm)]

end Hex

/-! ## Texts of keys -/

namespace PublicKey

variable {key other : PublicKey} {whole rest : String}

/-- A text, and what there is of it behind at most one mark. -/
inductive Unmarked : String → String → Prop
  | marked (rest : String) : Unmarked ("0x" ++ rest) rest
  | bare {whole : String} (h : ¬ ∃ rest, whole = "0x" ++ rest) : Unmarked whole whole

theorem eq_marked_iff : whole = "0x" ++ rest ↔ whole.toList = '0' :: 'x' :: rest.toList := by
  rw [← String.toList_inj, String.toList_append]
  rfl

/-- That is how the mark is taken off when a key is read. -/
theorem unmarked_iff : Unmarked whole rest ↔ Hex.withoutMark whole.toList = rest.toList := by
  constructor
  · intro h
    cases h with
    | marked =>
      rw [eq_marked_iff.mp (rfl : "0x" ++ rest = "0x" ++ rest)]
      rfl
    | bare h =>
      unfold Hex.withoutMark
      split
      · next rest' heq =>
        refine absurd ⟨String.ofList rest', eq_marked_iff.mpr ?_⟩ h
        rw [heq, String.toList_ofList]
      · rfl
  · intro h
    unfold Hex.withoutMark at h
    split at h
    · next rest' heq =>
      obtain rfl : whole = "0x" ++ rest := eq_marked_iff.mpr (heq.trans (by rw [h]))
      exact .marked rest
    · next hbare =>
      obtain rfl : whole = rest := String.toList_inj.mp h
      refine .bare ?_
      rintro ⟨rest', hrest⟩
      exact hbare _ (eq_marked_iff.mp hrest)

theorem exists_unmarked (whole : String) : ∃! rest, Unmarked whole rest := by
  refine ⟨String.ofList (Hex.withoutMark whole.toList), unmarked_iff.mpr String.toList_ofList.symm, ?_⟩
  intro rest h
  rw [unmarked_iff.mp h, String.ofList_toList]

/-! ### What is read -/

theorem toList_toLower (rest : String) : rest.toLower.toList = rest.toList.map Char.toLower := String.toList_map

/-- **A text is read as the key that is written in its digits**, in lower case. -/
theorem ofText_eq_ok_iff (h : Unmarked whole rest) : ofText whole = .ok key ↔ key.text = "0x" ++ rest.toLower := by
  have hdecode : ofText whole = .ok key ↔ Hex.decode rest.toList = .ok key.bytes := by
    unfold ofText
    rw [unmarked_iff.mp h]
    cases Hex.decode rest.toList with
    | ok bytes => simp [Except.map, PublicKey.ext_iff]
    | error fault => simp [Except.map]
  rw [hdecode, Hex.decode_eq_ok_iff, text, String.append_right_inj, ← String.toList_inj, String.toList_ofList,
    toList_toLower]

/-- Texts have as many bytes as they are encoded in. -/
theorem length_utf8_toList (rest : String) : (Hex.utf8 rest.toList).length = rest.utf8ByteSize := by
  have hbytes : rest.toByteArray = (Hex.utf8 rest.toList).toByteArray := by
    rw [← String.ofList_toList (s := rest), String.toByteArray_ofList, String.toList_ofList]
    rfl
  rw [← String.size_toByteArray, hbytes, List.size_toByteArray]

/-- Digits that pair off are an even number of bytes. -/
theorem isPaired_toList_iff :
    Hex.IsPaired rest.toList ↔ rest.utf8ByteSize % 2 = 0 ∧ ∀ c ∈ rest.toList, Hex.IsDigit c := by
  unfold Hex.IsPaired
  rw [and_comm]
  refine and_congr_left fun hdigits => ?_
  rw [← length_utf8_toList, Hex.length_utf8 hdigits]

/-! ### What is written -/

/-- **No two keys have one text.** -/
theorem text_injective : Function.Injective PublicKey.text := by
  intro key other h
  have hdigits := (String.append_right_inj "0x").mp h
  exact PublicKey.ext (Hex.encode_injective (String.ofList_injective hdigits))

/-- The digits of a key, behind the mark. -/
def digits (key : PublicKey) : String := String.ofList (Hex.encode key.bytes)

theorem toLower_digits (key : PublicKey) : key.digits.toLower = key.digits := by
  apply String.toList_inj.mp
  rw [toList_toLower, digits, String.toList_ofList, Hex.map_toLower_encode]

/-- Digits do not begin with the mark, since the second character of the mark is no digit. -/
theorem unmarked_digits (key : PublicKey) : Unmarked key.digits key.digits := by
  refine .bare ?_
  rintro ⟨rest, h⟩
  have hlist := eq_marked_iff.mp h
  rw [digits, String.toList_ofList] at hlist
  have hmark : Hex.IsDigit 'x' := by
    apply (Hex.isPaired_encode key.bytes).1
    rw [hlist]
    simp
  exact absurd hmark (by decide)

/-! ### Writing and reading -/

/-- **Keys and texts correspond.** A key is read back from its text, and from its digits alone. Different keys have
different texts, and so they have different entries in a payload. Of a text, what counts is what there is behind at
most one mark: it is read exactly if that is an even number of bytes and consists of digits; then it is written in
lower case behind a mark; and two texts that are read stand for one key exactly if they differ in nothing else than
the mark and the letter case. -/
theorem text_codec :
    (∀ key : PublicKey, ofText key.text = .ok key ∧ key.text = "0x" ++ key.digits ∧ ofText key.digits = .ok key) ∧
    (∀ key other : PublicKey, key ≠ other →
      key.text ≠ other.text ∧ (KeyEntry.listed key).text? ≠ (KeyEntry.listed other).text?) ∧
    (∀ whole, ∃! rest, Unmarked whole rest) ∧
    (∀ whole rest, Unmarked whole rest →
      ((∃ key, ofText whole = .ok key) ↔ rest.utf8ByteSize % 2 = 0 ∧ ∀ c ∈ rest.toList, Hex.IsDigit c) ∧
      ∀ key, ofText whole = .ok key → key.text = "0x" ++ rest.toLower) ∧
    ∀ whole rest whole' rest' key key', Unmarked whole rest → Unmarked whole' rest' →
      ofText whole = .ok key → ofText whole' = .ok key' → (key = key' ↔ rest.toLower = rest'.toLower) := by
  refine ⟨?_, ?_, exists_unmarked, ?_, ?_⟩
  · intro key
    have hread : ∀ whole, Unmarked whole key.digits → ofText whole = .ok key := by
      intro whole hwhole
      rw [ofText_eq_ok_iff hwhole, toLower_digits]
      rfl
    exact ⟨hread _ (.marked key.digits), rfl, hread _ key.unmarked_digits⟩
  · intro key other hne
    have htext : key.text ≠ other.text := fun h => hne (text_injective h)
    exact ⟨htext, fun h => htext (Option.some.inj h)⟩
  · intro whole rest hrest
    refine ⟨?_, fun key => (ofText_eq_ok_iff hrest).mp⟩
    rw [exists_ofText_iff, unmarked_iff.mp hrest, isPaired_toList_iff]
  · intro whole rest whole' rest' key key' hrest hrest' hkey hkey'
    have htext := (ofText_eq_ok_iff hrest).mp hkey
    have htext' := (ofText_eq_ok_iff hrest').mp hkey'
    rw [← text_injective.eq_iff, htext, htext', String.append_right_inj]

/-- One key in two texts. With two marks, and with one letter of two bytes in place of two digits, it is none. -/
theorem text_codec_0ab1 :
    ∃ key, key.text = "0x0ab1" ∧ ofText "0x0ab1" = .ok key ∧ ofText "0AB1" = .ok key ∧
      Unmarked "0x0x0ab1" "0x0ab1" ∧ (∀ key, ofText "0x0x0ab1" ≠ .ok key) ∧
      Unmarked "0xé" "é" ∧ "é".utf8ByteSize = 2 ∧ ∀ key, ofText "0xé" ≠ .ok key := by
  obtain ⟨hkeys, _, _, htexts, hsame⟩ := text_codec
  obtain ⟨hread, _, _⟩ := hkeys ⟨[0x0a, 0xb1]⟩
  have hcapital : Unmarked "0AB1" "0AB1" := unmarked_iff.mpr rfl
  have htwice : Unmarked "0x0x0ab1" "0x0ab1" := .marked "0x0ab1"
  have hletter : Unmarked "0xé" "é" := .marked "é"
  obtain ⟨key, hkey⟩ := (htexts _ _ hcapital).1.mpr (isPaired_toList_iff.mp (by decide))
  have hlower : "0ab1".toLower = "0AB1".toLower := by
    rw [← String.toList_inj, toList_toLower, toList_toLower]
    rfl
  obtain rfl := (hsame "0x0ab1" "0ab1" "0AB1" "0AB1" _ key (.marked "0ab1") hcapital hread hkey).mpr hlower
  refine ⟨_, rfl, hread, hkey, htwice, ?_, hletter, rfl, ?_⟩
  · intro key hkey
    exact absurd (isPaired_toList_iff.mpr ((htexts _ _ htwice).1.mp ⟨key, hkey⟩)) (by decide)
  · intro key hkey
    exact absurd (isPaired_toList_iff.mpr ((htexts _ _ hletter).1.mp ⟨key, hkey⟩)) (by decide)

end PublicKey
end DutyRelay
