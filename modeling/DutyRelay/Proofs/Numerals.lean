import DutyRelay.Json.Numeral
import DutyRelay.Proofs.Decimal
import Mathlib.Data.List.TakeWhile
import Mathlib.Data.Option.Basic

/-!
# The spelling of JSON numerals

The grammar of numerals is a sign, digits, a fraction and an exponent, one behind the other, of which only the digits
have to be there. A text is cut at the first exponent mark and at the first point to find these parts, and what is read
that way is exactly what the grammar spells. From there it follows which numerals are words: those that are spelled in
digits alone.

## Contents
- `Numeral.Cut`, `cut_splitAt`, `Cut.splitAt_eq`: a text cut at its first mark.
- `Numeral.Fraction`, `Numeral.Power`, `Numeral.IsWhole`, `Numeral.Spells`: the grammar.
- `ofText?_eq_some_iff`: what is read is what the grammar spells.
- `Numeral.Inexact`, `Spells.decimal_or_inexact`, `Spells.word?_eq_some_iff`: the numerals that are words.
- `spells_toDigits`: the decimal text of every number.
-/

namespace DutyRelay.Json.Numeral

variable {isMark : Char → Bool} {text letters digits whole point power : List Char} {negative : Bool}
  {parts : List Char × Option (List Char)} {fraction : Option (List Char)} {exponent : Option (Bool × List Char)}
  {numeral : Numeral} {c : Char} {n : Nat}

/-! ## A text cut at its first mark -/

/-- Two parts of a text: what is in front of the first mark and what is behind it, or all of it if there is none. -/
inductive Cut (isMark : Char → Bool) : List Char → List Char × Option (List Char) → Prop
  | uncut {text : List Char} (unmarked : ∀ c ∈ text, isMark c = false) : Cut isMark text (text, none)
  | cut {front : List Char} {mark : Char} {back : List Char} (unmarked : ∀ c ∈ front, isMark c = false)
      (marked : isMark mark = true) : Cut isMark (front ++ mark :: back) (front, some back)

theorem cut_splitAt (isMark : Char → Bool) (text : List Char) : Cut isMark text (splitAt isMark text) := by
  have hfront : ∀ c ∈ text.takeWhile fun c => !isMark c, isMark c = false := by
    intro c hc
    simpa using List.mem_takeWhile_imp hc
  have hwhole := List.takeWhile_append_dropWhile (p := fun c => !isMark c) (l := text)
  unfold splitAt
  split
  · next hback =>
    rw [hback, List.append_nil] at hwhole
    rw [hwhole] at hfront
    exact .uncut hfront
  · next mark back hback =>
    have hmark : isMark mark = true := by
      have hhead := List.head?_dropWhile_not (fun c => !isMark c) text
      rw [hback] at hhead
      simpa using hhead
    rw [hback] at hwhole
    have hcut : Cut isMark (text.takeWhile (fun c => !isMark c) ++ mark :: back) _ := .cut hfront hmark
    rwa [hwhole] at hcut

theorem Cut.splitAt_eq (h : Cut isMark text parts) : splitAt isMark text = parts := by
  cases h with
  | uncut hunmarked =>
    have hback : text.dropWhile (fun c => !isMark c) = [] := by
      rw [List.dropWhile_eq_nil_iff]
      exact fun c hc => by simp [hunmarked c hc]
    unfold splitAt
    rw [hback]
  | @cut front mark back hunmarked hmarked =>
    have hpos : ∀ c ∈ front, (!isMark c) = true := fun c hc => by simp [hunmarked c hc]
    have hback : (front ++ mark :: back).dropWhile (fun c => !isMark c) = mark :: back := by
      rw [List.dropWhile_append_of_pos hpos]
      simp [hmarked]
    have hfront : (front ++ mark :: back).takeWhile (fun c => !isMark c) = front := by
      rw [List.takeWhile_append_of_pos hpos]
      simp [hmarked]
    unfold splitAt
    rw [hback, hfront]

/-! ## The grammar -/

/-- A point with digits behind it, or nothing. -/
inductive Fraction : List Char → Option (List Char) → Prop
  | absent : Fraction [] none
  | present {digits : List Char} (h : areDigits digits = true) : Fraction ('.' :: digits) (some digits)

/-- A mark with digits behind it and a sign or none between them, or nothing. -/
inductive Power : List Char → Option (Bool × List Char) → Prop
  | absent : Power [] none
  | unsigned {mark : Char} {digits : List Char} (marked : isExponentMark mark = true) (h : areDigits digits = true) :
      Power (mark :: digits) (some (false, digits))
  | plus {mark : Char} {digits : List Char} (marked : isExponentMark mark = true) (h : areDigits digits = true) :
      Power (mark :: '+' :: digits) (some (false, digits))
  | minus {mark : Char} {digits : List Char} (marked : isExponentMark mark = true) (h : areDigits digits = true) :
      Power (mark :: '-' :: digits) (some (true, digits))

/-- Digits without a leading zero, unless they are nothing but a zero. -/
structure IsWhole (whole : List Char) : Prop where
  digits : areDigits whole = true
  front : whole.length = 1 ∨ whole.head? ≠ some '0'

/-- A numeral in full. -/
inductive Spells : List Char → Numeral → Prop
  | plain {whole point power : List Char} {fraction exponent} (hwhole : IsWhole whole)
      (hpoint : Fraction point fraction) (hpower : Power power exponent) :
      Spells (whole ++ point ++ power) ⟨false, whole, fraction, exponent⟩
  | minus {whole point power : List Char} {fraction exponent} (hwhole : IsWhole whole)
      (hpoint : Fraction point fraction) (hpower : Power power exponent) :
      Spells ('-' :: (whole ++ point ++ power)) ⟨true, whole, fraction, exponent⟩

/-! ### What the parts are made of -/

theorem areDigits_iff : areDigits digits = true ↔ digits ≠ [] ∧ ∀ c ∈ digits, c.isDigit = true := by
  simp [areDigits]

theorem isExponentMark_iff : isExponentMark c = true ↔ c = 'e' ∨ c = 'E' := by
  simp [isExponentMark]

theorem isExponentMark_of_isDigit (h : c.isDigit = true) : isExponentMark c = false := by
  rw [Bool.eq_false_iff, Ne, isExponentMark_iff]
  rintro (rfl | rfl) <;> exact absurd h (by decide)

theorem IsWhole.isDigit (h : IsWhole whole) : ∀ c ∈ whole, c.isDigit = true := (areDigits_iff.mp h.digits).2

/-- In front of the exponent there are digits and a point, and no exponent mark. -/
theorem Fraction.isDigit_or (h : Fraction point fraction) : ∀ c ∈ point, c.isDigit = true ∨ c = '.' := by
  cases h with
  | absent => simp
  | present hdigits =>
    intro c hc
    obtain rfl | hc := List.mem_cons.mp hc
    · exact .inr rfl
    · exact .inl ((areDigits_iff.mp hdigits).2 c hc)

theorem IsWhole.cut_point (hwhole : IsWhole whole) (hpoint : Fraction point fraction) :
    Cut (· = '.') (whole ++ point) (whole, fraction) := by
  have hunmarked : ∀ c ∈ whole, decide (c = '.') = false := by
    intro c hc
    rw [decide_eq_false_iff_not]
    rintro rfl
    exact absurd (hwhole.isDigit _ hc) (by decide)
  cases hpoint with
  | absent => simpa using Cut.uncut hunmarked
  | present hdigits => exact .cut hunmarked (by decide)

theorem Cut.exists_point (h : Cut (· = '.') text (whole, fraction)) (hfraction : fraction.all areDigits = true) :
    ∃ point, text = whole ++ point ∧ Fraction point fraction := by
  cases h with
  | uncut _ => exact ⟨[], (List.append_nil _).symm, .absent⟩
  | cut _ hmark =>
    obtain rfl := of_decide_eq_true hmark
    exact ⟨_, rfl, .present hfraction⟩

theorem IsWhole.unmarked (hwhole : IsWhole whole) (hpoint : Fraction point fraction) :
    ∀ c ∈ whole ++ point, isExponentMark c = false := by
  intro c hc
  obtain hc | hc := List.mem_append.mp hc
  · exact isExponentMark_of_isDigit (hwhole.isDigit c hc)
  · obtain hdigit | rfl := hpoint.isDigit_or c hc
    · exact isExponentMark_of_isDigit hdigit
    · decide

/-- Digits are no sign. -/
theorem exponentOf?_of_areDigits (h : areDigits digits = true) : exponentOf? digits = some (false, digits) := by
  unfold exponentOf?
  split
  · exact absurd ((areDigits_iff.mp h).2 '+' List.mem_cons_self) (by decide)
  · exact absurd ((areDigits_iff.mp h).2 '-' List.mem_cons_self) (by decide)
  · rw [if_pos h]

theorem power_iff {sign : Bool × List Char} : Power power (some sign) ↔
    ∃ mark back, power = mark :: back ∧ isExponentMark mark = true ∧ exponentOf? back = some sign := by
  constructor
  · intro h
    cases h with
    | unsigned hmark hdigits => exact ⟨_, _, rfl, hmark, exponentOf?_of_areDigits hdigits⟩
    | plus hmark hdigits => exact ⟨_, _, rfl, hmark, if_pos hdigits⟩
    | minus hmark hdigits => exact ⟨_, _, rfl, hmark, if_pos hdigits⟩
  · rintro ⟨mark, back, rfl, hmark, h⟩
    unfold exponentOf? at h
    split at h
    all_goals
      rw [Option.ite_none_right_eq_some, Option.some.injEq] at h
      obtain ⟨hdigits, rfl⟩ := h
    · exact .plus hmark hdigits
    · exact .minus hmark hdigits
    · exact .unsigned hmark hdigits

/-! ## What is read -/

/-- What is behind the sign. -/
def unsigned? (negative : Bool) (text : List Char) : Option Numeral := do
  let (mantissa, power) := splitAt isExponentMark text
  let (whole, fraction) := splitAt (· = '.') mantissa
  guard (areDigits whole && (whole.length = 1 || whole.head? ≠ some '0'))
  guard (fraction.all areDigits)
  match power with
  | none => return ⟨negative, whole, fraction, none⟩
  | some power => return ⟨negative, whole, fraction, some (← exponentOf? power)⟩

theorem ofText?_minus (text : List Char) : ofText? ('-' :: text) = unsigned? true text := rfl

theorem ofText?_of_head_ne (h : text.head? ≠ some '-') : ofText? text = unsigned? false text := by
  unfold ofText?
  simp only
  split
  · exact absurd rfl h
  · rfl

theorem guard_whole (whole : List Char) :
    (areDigits whole && (whole.length = 1 || whole.head? ≠ some '0')) = true ↔ IsWhole whole := by
  simp only [Bool.and_eq_true, Bool.or_eq_true, decide_eq_true_eq]
  exact ⟨fun ⟨hdigits, hfront⟩ => ⟨hdigits, hfront⟩, fun h => ⟨h.digits, h.front⟩⟩

theorem unsigned?_eq_some_iff :
    unsigned? negative text = some numeral ↔ ∃ whole point power fraction exponent,
      text = whole ++ point ++ power ∧ numeral = ⟨negative, whole, fraction, exponent⟩ ∧
        IsWhole whole ∧ Fraction point fraction ∧ Power power exponent := by
  constructor
  · intro h
    unfold unsigned? at h
    have htext := cut_splitAt isExponentMark text
    generalize splitAt isExponentMark text = parts at h htext
    obtain ⟨mantissa, back⟩ := parts
    have hmantissa := cut_splitAt (· = '.') mantissa
    simp only at h
    generalize splitAt (· = '.') mantissa = parts at h hmantissa
    obtain ⟨whole, fraction⟩ := parts
    simp only [Option.bind_eq_bind, Option.bind_eq_some_iff, Option.guard_eq_some', guard_whole] at h
    obtain ⟨_, hwhole, _, hfraction, h⟩ := h
    obtain ⟨point, rfl, hpoint⟩ := hmantissa.exists_point hfraction
    cases htext with
    | uncut _ =>
      cases h
      exact ⟨whole, point, [], fraction, none, (List.append_nil _).symm, rfl, hwhole, hpoint, .absent⟩
    | cut _ hmark =>
      obtain ⟨sign, hsign, h⟩ := Option.bind_eq_some_iff.mp h
      cases h
      have hpower := power_iff.mpr ⟨_, _, rfl, hmark, hsign⟩
      exact ⟨whole, point, _, fraction, some sign, rfl, rfl, hwhole, hpoint, hpower⟩
  · rintro ⟨whole, point, power, fraction, exponent, rfl, rfl, hwhole, hpoint, hpower⟩
    have hguard := (guard_whole whole).mpr hwhole
    have hfraction : fraction.all areDigits = true := by
      cases hpoint with
      | absent => rfl
      | present hdigits => exact hdigits
    have hmantissa := (hwhole.cut_point hpoint).splitAt_eq
    have hunmarked := hwhole.unmarked hpoint
    unfold unsigned?
    cases exponent with
    | none =>
      cases hpower
      have htext := (Cut.uncut hunmarked).splitAt_eq
      rw [List.append_nil]
      simp only [htext, hmantissa, hguard, hfraction]
      rfl
    | some sign =>
      obtain ⟨mark, back, rfl, hmark, hsign⟩ := power_iff.mp hpower
      have hcut : Cut isExponentMark (whole ++ point ++ mark :: back) (whole ++ point, some back) :=
        .cut hunmarked hmark
      have htext := hcut.splitAt_eq
      simp only [htext, hmantissa, hguard, hfraction, hsign]
      rfl

/-- **What is read is what the grammar spells.** -/
theorem ofText?_eq_some_iff : ofText? letters = some numeral ↔ Spells letters numeral := by
  constructor
  · intro h
    by_cases hminus : letters.head? = some '-'
    · obtain ⟨text, rfl⟩ := List.head?_eq_some_iff.mp hminus
      rw [ofText?_minus] at h
      obtain ⟨_, _, _, _, _, rfl, rfl, hwhole, hpoint, hpower⟩ := unsigned?_eq_some_iff.mp h
      exact .minus hwhole hpoint hpower
    · rw [ofText?_of_head_ne hminus] at h
      obtain ⟨_, _, _, _, _, rfl, rfl, hwhole, hpoint, hpower⟩ := unsigned?_eq_some_iff.mp h
      exact .plain hwhole hpoint hpower
  · intro h
    cases h with
    | minus hwhole hpoint hpower =>
      exact unsigned?_eq_some_iff.mpr ⟨_, _, _, _, _, rfl, rfl, hwhole, hpoint, hpower⟩
    | @plain whole point power _ _ hwhole hpoint hpower =>
      have hminus : (whole ++ point ++ power).head? ≠ some '-' := by
        obtain ⟨c, rest, rfl⟩ := List.exists_cons_of_ne_nil (areDigits_iff.mp hwhole.digits).1
        have hdigit := hwhole.isDigit c List.mem_cons_self
        rintro ⟨⟩
        exact absurd hdigit (by decide)
      rw [ofText?_of_head_ne hminus]
      exact unsigned?_eq_some_iff.mpr ⟨_, _, _, _, _, rfl, rfl, hwhole, hpoint, hpower⟩

/-! ## The numerals that are words -/

/-- What makes a numeral something else than a natural number. -/
inductive Inexact (letters : List Char) : Prop
  | negative {rest : List Char} (h : letters = '-' :: rest)
  | fraction (h : '.' ∈ letters)
  | exponent {mark : Char} (marked : isExponentMark mark = true) (h : mark ∈ letters)

theorem Inexact.not_decimal (h : Inexact letters) : ¬ Word.Decimal letters n := by
  intro hdecimal
  cases h with
  | negative h => exact absurd (hdecimal.isDigit '-' (by simp [h])) (by decide)
  | fraction h => exact absurd (hdecimal.isDigit '.' h) (by decide)
  | @exponent mark hmarked h =>
    rw [isExponentMark_of_isDigit (hdecimal.isDigit mark h)] at hmarked
    cases hmarked

/-- A numeral is spelled in digits alone, and then it has nothing else, or it is something else than a word. -/
theorem Spells.decimal_or_inexact (h : Spells letters numeral) :
    (∃ n, Word.Decimal letters n) ∧ numeral = ⟨false, letters, none, none⟩ ∨
      Inexact letters ∧ numeral.word? = none := by
  cases h with
  | minus _ _ _ => exact .inr ⟨.negative rfl, rfl⟩
  | @plain whole point power fraction exponent hwhole hpoint hpower =>
    cases exponent with
    | some sign =>
      obtain ⟨mark, back, rfl, hmark, -⟩ := power_iff.mp hpower
      exact .inr ⟨.exponent hmark (by simp), by simp [word?]⟩
    | none =>
      cases hpower
      cases hpoint with
      | present _ => exact .inr ⟨.fraction (by simp), rfl⟩
      | absent =>
        obtain ⟨hne, hdigits⟩ := areDigits_iff.mp hwhole.digits
        rw [List.append_nil, List.append_nil]
        exact .inl ⟨⟨_, Word.decimal_ofDigits hne hdigits⟩, rfl⟩

/-- **The words among the numerals are spelled in digits alone**, with a value that is not too large. -/
theorem Spells.word?_eq_some_iff (h : Spells letters numeral) :
    numeral.word? = some n ↔ Word.Decimal letters n ∧ n ≤ Word.top := by
  obtain ⟨⟨m, hdecimal⟩, rfl⟩ | ⟨hinexact, hnone⟩ := h.decimal_or_inexact
  · have hvalue := hdecimal.ofDigits_eq
    have hword : word? ⟨false, letters, none, none⟩ = if m ≤ Word.top then some m else none := by
      unfold word?
      simp [hvalue]
    rw [hword, Option.ite_none_right_eq_some, Option.some.injEq]
    constructor
    · rintro ⟨hle, rfl⟩
      exact ⟨hdecimal, hle⟩
    · rintro ⟨hdecimal', hle⟩
      obtain rfl : m = n := hvalue.symm.trans hdecimal'.ofDigits_eq
      exact ⟨hle, rfl⟩
  · rw [hnone]
    exact ⟨nofun, fun ⟨hdecimal, _⟩ => absurd hdecimal hinexact.not_decimal⟩

/-- Among the numerals is the decimal text of every number. -/
theorem spells_toDigits (n : Nat) : Spells (Nat.toDigits 10 n) ⟨false, Nat.toDigits 10 n, none, none⟩ := by
  have hdecimal := Word.decimal_toDigits n
  have hwhole : IsWhole (Nat.toDigits 10 n) :=
    ⟨areDigits_iff.mpr ⟨hdecimal.ne_nil, hdecimal.isDigit⟩, Word.head?_toDigits n⟩
  simpa using Spells.plain hwhole .absent .absent

end DutyRelay.Json.Numeral
