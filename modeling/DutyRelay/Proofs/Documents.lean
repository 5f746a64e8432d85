import DutyRelay.Json.Document
import DutyRelay.Proofs.KeyText
import DutyRelay.Proofs.Numerals

/-!
# What is in a document

A document is read in two passes, bytes into tokens and tokens into a tree, and each of them is a fold with a state.
What holds at the start and is preserved by every step holds at the end. That a numeral in the tree stands somewhere in
the text is such a property: the scanner has read its letters last when it makes a token of them, and the reader takes
every numeral from a token. The other way round, every numeral is read where it stands by itself, and so is every string
that is written without escapes.

## Contents
- `foldlM_invariant`: what every step preserves.
- `SpelledIn`, `Scanner.Traced`, `allSpelled_of_tokensOf?`: the numerals among the tokens stand in the text.
- `Document.IsPart`, `Document.Forall`, `forall_of_ofTokens?`: the numerals in the tree are among the tokens.
- `IsPart.spelledIn`: the numerals in the tree stand in the text.
- `ofBytes?_numeral`, `ofBytes?_quoted`, `textOf?_utf8`: numerals and plain strings by themselves.
-/

namespace DutyRelay.Json

/-- What holds at the start, with nothing read, and is preserved by every step that gives a state, holds at the end. -/
theorem foldlM_invariant {α σ : Type} {step : σ → α → Option σ} {P : List α → σ → Prop}
    (hstep : ∀ read state a next, P read state → step state a = some next → P (read ++ [a]) next)
    {read unread : List α} {state last : σ} (h : P read state) (hlast : unread.foldlM step state = some last) :
    P (read ++ unread) last := by
  induction unread generalizing read state with
  | nil =>
    cases hlast
    rwa [List.append_nil]
  | cons a unread ih =>
    rw [List.foldlM_cons] at hlast
    obtain ⟨next, hnext, hrest⟩ := Option.bind_eq_some_iff.mp hlast
    have hall := ih (hstep read state a next h hnext) hrest
    rwa [List.append_assoc] at hall

/-! ## Among the tokens -/

/-- Somewhere in the text there are letters that spell a numeral. -/
structure SpelledIn (bytes : List UInt8) (letters : List Char) (numeral : Numeral) : Prop where
  stands : ∃ written, written <:+: bytes ∧ written.map Char.ofUInt8 = letters
  spells : Numeral.Spells letters numeral

theorem SpelledIn.mono {bytes more : List UInt8} {letters : List Char} {numeral : Numeral}
    (h : SpelledIn bytes letters numeral) (hbytes : bytes <:+: more) : SpelledIn more letters numeral := by
  obtain ⟨written, hwritten, hletters⟩ := h.stands
  exact ⟨⟨written, hwritten.trans hbytes, hletters⟩, h.spells⟩

/-- All numerals among the tokens stand in the text. -/
def AllSpelled (bytes : List UInt8) (tokens : List Token) : Prop :=
  ∀ numeral, .number numeral ∈ tokens → ∃ letters, SpelledIn bytes letters numeral

theorem AllSpelled.append {bytes : List UInt8} {tokens : List Token} (h : AllSpelled bytes tokens) (byte : UInt8) :
    AllSpelled (bytes ++ [byte]) tokens := by
  intro numeral hmem
  obtain ⟨letters, hspelled⟩ := h numeral hmem
  exact ⟨letters, hspelled.mono (List.prefix_append _ _).isInfix⟩

theorem AllSpelled.cons {bytes : List UInt8} {tokens : List Token} {token : Token} (h : AllSpelled bytes tokens)
    (htoken : ∀ numeral, token = .number numeral → ∃ letters, SpelledIn bytes letters numeral) :
    AllSpelled bytes (token :: tokens) := by
  intro numeral hmem
  obtain hfront | hmem := List.mem_cons.mp hmem
  · exact htoken numeral hfront.symm
  · exact h numeral hmem

theorem spells_of_wordToken? {letters : List Char} {numeral : Numeral}
    (h : wordToken? letters = some (.number numeral)) : Numeral.Spells letters numeral := by
  unfold wordToken? at h
  split at h
  · cases h
  · split at h
    · cases h
    · split at h
      · cases h
      · obtain ⟨_, hread, hnumber⟩ := Option.map_eq_some_iff.mp h
        cases hnumber
        exact Numeral.ofText?_eq_some_iff.mp hread

theorem punctuation?_ne_number {c : Char} {numeral : Numeral} : punctuation? c ≠ some (.number numeral) := by
  unfold punctuation?
  split <;> nofun

namespace Scanner

variable {read : List UInt8} {scanner next : Scanner} {byte : UInt8} {tokens : List Token}

/-- The numerals so far stand in what has been read, and the letters of the present word stand at its end. -/
structure Traced (read : List UInt8) (scanner : Scanner) : Prop where
  numerals : AllSpelled read scanner.tokens
  word : ∀ letters, scanner.mode = .word letters →
    ∃ written, written <:+ read ∧ written.map Char.ofUInt8 = letters.reverse

/-- A byte outside of all tokens begins one or is one, or it is blank. -/
theorem traced_begin (hnumerals : AllSpelled read tokens) (h : begin tokens (Char.ofUInt8 byte) = some next) :
    Traced (read ++ [byte]) next := by
  have hall := hnumerals.append byte
  unfold begin at h
  split at h
  · cases h
    exact ⟨hall, nofun⟩
  · split at h
    · cases h
      exact ⟨hall, nofun⟩
    · split at h
      · cases h
        refine ⟨hall, ?_⟩
        rintro letters ⟨⟩
        exact ⟨[byte], List.suffix_append _ _, rfl⟩
      · obtain ⟨token, htoken, hnext⟩ := Option.map_eq_some_iff.mp h
        cases hnext
        refine ⟨hall.cons ?_, nofun⟩
        rintro numeral rfl
        exact absurd htoken punctuation?_ne_number

/-- Only the end of a word makes a token of letters, and these have just been read. -/
theorem Traced.step (h : Traced read scanner) (hstep : scanner.step byte = some next) :
    Traced (read ++ [byte]) next := by
  have hall := h.numerals.append byte
  unfold Scanner.step at hstep
  cases hmode : scanner.mode with
  | between =>
    simp only [hmode] at hstep
    exact traced_begin h.numerals hstep
  | word letters =>
    obtain ⟨written, hsuffix, hletters⟩ := h.word letters hmode
    simp only [hmode] at hstep
    split at hstep
    · -- The word goes on.
      cases hstep
      refine ⟨hall, ?_⟩
      rintro letters ⟨⟩
      obtain ⟨front, hfront⟩ := hsuffix
      exact ⟨written ++ [byte], ⟨front, by rw [← hfront, List.append_assoc]⟩, by simp [hletters]⟩
    · -- The word has ended, and its token may be a numeral.
      obtain ⟨token, htoken, hbegin⟩ := Option.bind_eq_some_iff.mp hstep
      refine traced_begin (h.numerals.cons ?_) hbegin
      rintro numeral rfl
      exact ⟨_, ⟨written, hsuffix.isInfix, hletters⟩, spells_of_wordToken? htoken⟩
  | string pieces =>
    simp only [hmode] at hstep
    split at hstep
    · cases hstep
      exact ⟨hall.cons nofun, nofun⟩
    · split at hstep
      · cases hstep
        exact ⟨hall, nofun⟩
      · split at hstep
        · cases hstep
        · cases hstep
          exact ⟨hall, nofun⟩
  | escape pieces =>
    simp only [hmode] at hstep
    split at hstep
    · cases hstep
      exact ⟨hall, nofun⟩
    · obtain ⟨value, -, hnext⟩ := Option.map_eq_some_iff.mp hstep
      cases hnext
      exact ⟨hall, nofun⟩
  | unit pieces missing value =>
    simp only [hmode] at hstep
    obtain ⟨digit, -, hnext⟩ := Option.bind_eq_some_iff.mp hstep
    split at hnext
    · cases hnext
      exact ⟨hall, nofun⟩
    · cases hnext
      exact ⟨hall, nofun⟩

end Scanner

/-- At the end the present word has become a token as well. -/
theorem allSpelled_of_tokensOf? {bytes : List UInt8} {tokens : List Token} (h : tokensOf? bytes = some tokens) :
    AllSpelled bytes tokens := by
  obtain ⟨scanner, hscan, hfinish⟩ := Option.bind_eq_some_iff.mp h
  have hstart : Scanner.Traced [] Scanner.start := ⟨nofun, nofun⟩
  have htraced : Scanner.Traced ([] ++ bytes) scanner :=
    foldlM_invariant (fun _ _ _ _ h hstep => h.step hstep) hstart hscan
  have hreverse : ∀ tokens, AllSpelled bytes tokens → AllSpelled bytes tokens.reverse :=
    fun tokens hall numeral hmem => hall numeral (List.mem_reverse.mp hmem)
  unfold Scanner.finish at hfinish
  split at hfinish
  · cases hfinish
    exact hreverse _ htraced.numerals
  · next letters hmode =>
    obtain ⟨written, hsuffix, hletters⟩ := htraced.word letters hmode
    obtain ⟨token, htoken, htokens⟩ := Option.map_eq_some_iff.mp hfinish
    rw [← htokens]
    refine hreverse _ (htraced.numerals.cons ?_)
    rintro numeral rfl
    exact ⟨_, ⟨written, hsuffix.isInfix, hletters⟩, spells_of_wordToken? htoken⟩
  · cases hfinish

/-! ## In the tree -/

namespace Document

/-- A value in a document: the document itself, or something inside its items or its fields. -/
inductive IsPart (value : Document) : Document → Prop
  | self : IsPart value value
  | item {item : Document} {items : List Document} (mem : item ∈ items) (part : IsPart value item) :
      IsPart value (.array items)
  | field {name : List Piece} {inner : Document} {fields : List (List Piece × Document)}
      (mem : (name, inner) ∈ fields) (part : IsPart value inner) : IsPart value (.object fields)

/-- All numerals in a document have a property. -/
def Forall (P : Numeral → Prop) (document : Document) : Prop := ∀ numeral, IsPart (.number numeral) document → P numeral

variable {P : Numeral → Prop}

@[simp] theorem forall_null : Forall P .null := nofun

@[simp] theorem forall_bool (value : Bool) : Forall P (.bool value) := nofun

@[simp] theorem forall_string (pieces : List Piece) : Forall P (.string pieces) := nofun

@[simp] theorem forall_number {numeral : Numeral} : Forall P (.number numeral) ↔ P numeral := by
  constructor
  · exact fun h => h numeral .self
  · rintro h _ ⟨⟩
    exact h

@[simp] theorem forall_array {items : List Document} : Forall P (.array items) ↔ ∀ item ∈ items, Forall P item := by
  constructor
  · exact fun h item hmem numeral hpart => h numeral (.item hmem hpart)
  · intro h numeral hpart
    cases hpart with
    | item hmem hpart => exact h _ hmem numeral hpart

@[simp] theorem forall_object {fields : List (List Piece × Document)} :
    Forall P (.object fields) ↔ ∀ name value, (name, value) ∈ fields → Forall P value := by
  constructor
  · exact fun h name value hmem numeral hpart => h numeral (.field hmem hpart)
  · intro h numeral hpart
    cases hpart with
    | field hmem hpart => exact h _ _ hmem numeral hpart

/-- All numerals that have been read into an open bracket have a property. -/
def Frame.Forall (P : Numeral → Prop) : Frame → Prop
  | .array items => ∀ item ∈ items, item.Forall P
  | .object fields _ => ∀ name value, (name, value) ∈ fields → value.Forall P

/-- So have all of those that a place holds. -/
def Place.Forall (P : Numeral → Prop) : Place → Prop
  | .value => True
  | .firstItem outer | .firstName outer => ∀ frame ∈ outer, frame.Forall P
  | .name fields outer | .colon fields _ outer =>
    (∀ name inner, (name, inner) ∈ fields → inner.Forall P) ∧ ∀ frame ∈ outer, frame.Forall P
  | .after document => document.Forall P

namespace Reader

/-- And all of those that have been read. -/
structure Forall (P : Numeral → Prop) (reader : Reader) : Prop where
  frames : ∀ frame ∈ reader.frames, frame.Forall P
  place : reader.place.Forall P

theorem forall_readValue {frames : List Frame} {token : Token} {next : Reader}
    (hframes : ∀ frame ∈ frames, frame.Forall P) (htoken : ∀ numeral, token = .number numeral → P numeral)
    (h : readValue frames token = some next) : Forall P next := by
  unfold readValue at h
  split at h
  · cases h
    exact ⟨hframes, forall_null⟩
  · cases h
    exact ⟨hframes, forall_bool _⟩
  · cases h
    exact ⟨hframes, forall_number.mpr (htoken _ rfl)⟩
  · cases h
    exact ⟨hframes, forall_string _⟩
  · cases h
    exact ⟨hframes, hframes⟩
  · cases h
    exact ⟨hframes, hframes⟩
  · cases h

theorem forall_mem_fields {name : List Piece} {value : Document} {fields : List (List Piece × Document)}
    (hvalue : value.Forall P) (hfields : ∀ name inner, (name, inner) ∈ fields → inner.Forall P) :
    ∀ name' inner, (name', inner) ∈ (name, value) :: fields → inner.Forall P := by
  intro name' inner hmem
  obtain hfront | hmem := List.mem_cons.mp hmem
  · cases hfront
    exact hvalue
  · exact hfields name' inner hmem

theorem Forall.step {reader next : Reader} {token : Token} (h : Forall P reader)
    (htoken : ∀ numeral, token = .number numeral → P numeral) (hstep : reader.step token = some next) :
    Forall P next := by
  obtain ⟨hframes, hplace⟩ := h
  unfold Reader.step at hstep
  split at hstep
  case h_1 => exact forall_readValue hframes htoken hstep
  case h_2 outer heq =>
    rw [heq] at hplace
    cases hstep
    exact ⟨hplace, forall_array.mpr nofun⟩
  case h_3 outer heq hother =>
    rw [heq] at hplace
    refine forall_readValue ?_ htoken hstep
    exact List.forall_mem_cons.mpr ⟨nofun, hplace⟩
  case h_4 outer heq =>
    rw [heq] at hplace
    cases hstep
    exact ⟨hplace, forall_object.mpr nofun⟩
  case h_5 outer name heq =>
    rw [heq] at hplace
    cases hstep
    exact ⟨hplace, nofun, hplace⟩
  case h_6 fields outer name heq =>
    rw [heq] at hplace
    cases hstep
    exact ⟨hplace.2, hplace⟩
  case h_7 fields name outer heq =>
    rw [heq] at hplace
    cases hstep
    exact ⟨List.forall_mem_cons.mpr hplace, trivial⟩
  -- From here on a value is complete, and it goes into the innermost bracket.
  case h_8 value heq =>
    rw [heq] at hplace
    split at hstep
    · next items outer hbracket =>
      rw [hbracket] at hframes
      cases hstep
      obtain ⟨hitems, houter⟩ := List.forall_mem_cons.mp hframes
      have hall : ∀ item ∈ value :: items, item.Forall P := List.forall_mem_cons.mpr ⟨hplace, hitems⟩
      exact ⟨List.forall_mem_cons.mpr ⟨hall, houter⟩, trivial⟩
    · next fields name outer hbracket =>
      rw [hbracket] at hframes
      cases hstep
      obtain ⟨hfields, houter⟩ := List.forall_mem_cons.mp hframes
      exact ⟨houter, forall_mem_fields hplace hfields, houter⟩
    · cases hstep
  case h_9 value heq =>
    rw [heq] at hplace
    split at hstep
    · next items outer hbracket =>
      rw [hbracket] at hframes
      cases hstep
      obtain ⟨hitems, houter⟩ := List.forall_mem_cons.mp hframes
      have hall : ∀ item ∈ value :: items, item.Forall P := List.forall_mem_cons.mpr ⟨hplace, hitems⟩
      exact ⟨houter, forall_array.mpr fun item hmem => hall item (List.mem_reverse.mp hmem)⟩
    · cases hstep
  case h_10 value heq =>
    rw [heq] at hplace
    split at hstep
    · next fields name outer hbracket =>
      rw [hbracket] at hframes
      cases hstep
      obtain ⟨hfields, houter⟩ := List.forall_mem_cons.mp hframes
      have hall := @forall_mem_fields P name value fields hplace hfields
      exact ⟨houter, forall_object.mpr fun name' inner hmem => hall name' inner (List.mem_reverse.mp hmem)⟩
    · cases hstep
  case h_11 => cases hstep

end Reader

/-- What all numerals among the tokens have in common, those in the tree have as well. -/
theorem forall_of_ofTokens? {tokens : List Token} {document : Document}
    (htokens : ∀ numeral, .number numeral ∈ tokens → P numeral) (h : ofTokens? tokens = some document) :
    document.Forall P := by
  obtain ⟨reader, hread, hfinish⟩ := Option.bind_eq_some_iff.mp h
  have hstart : (∀ numeral, .number numeral ∈ ([] : List Token) → P numeral) → Reader.Forall P ⟨[], .value⟩ :=
    fun _ => ⟨nofun, trivial⟩
  have hreader : (∀ numeral, .number numeral ∈ [] ++ tokens → P numeral) → reader.Forall P := by
    refine foldlM_invariant (P := fun read reader =>
      (∀ numeral, .number numeral ∈ read → P numeral) → Reader.Forall P reader) ?_ hstart hread
    intro read state token next hstate hstep hall
    have hnext := hstate fun numeral hmem => hall numeral (List.mem_append_left _ hmem)
    refine hnext.step ?_ hstep
    rintro numeral rfl
    exact hall numeral (by simp)
  obtain ⟨hframes, hplace⟩ := hreader htokens
  unfold Reader.finish at hfinish
  split at hfinish
  · next value _ heq =>
    rw [heq] at hplace
    cases hfinish
    exact hplace
  · cases hfinish

/-- **A numeral in a document stands in its text**: somewhere there are the letters that spell it. -/
theorem IsPart.spelledIn {bytes : List UInt8} {document : Document} {numeral : Numeral}
    (hpart : IsPart (.number numeral) document) (h : ofBytes? bytes = some document) :
    ∃ letters, SpelledIn bytes letters numeral := by
  obtain ⟨tokens, htokens, hdocument⟩ := Option.bind_eq_some_iff.mp h
  exact forall_of_ofTokens? (allSpelled_of_tokensOf? htokens) hdocument numeral hpart

end Document

/-! ## Texts that are read -/

open Hex (utf8)

variable {written bytes : List UInt8} {letters text : List Char} {numeral : Numeral} {tokens : List Token}
  {pieces : List Piece} {byte : UInt8} {c : Char}

theorem ofUInt8_of_lt (h : c.toNat < 128) : Char.ofUInt8 (UInt8.ofNat c.toNat) = c := by
  apply Char.toNat_inj.mp
  show (UInt8.ofNat c.toNat).toNat = c.toNat
  exact UInt8.toNat_ofNat_of_lt' (Nat.lt_trans h (by decide))

/-- The scanner takes the bytes of a text of the first 128 characters as these characters. -/
theorem map_ofUInt8_utf8 (h : ∀ c ∈ text, c.toNat < 128) : (utf8 text).map Char.ofUInt8 = text := by
  induction text with
  | nil => rfl
  | cons c rest ih =>
    obtain ⟨hfirst, hrest⟩ := List.forall_mem_cons.mp h
    have hcons : utf8 (c :: rest) = String.utf8EncodeChar c ++ utf8 rest := rfl
    rw [hcons, Hex.utf8EncodeChar_of_lt hfirst, List.map_append, ih hrest]
    simp [ofUInt8_of_lt hfirst]

/-! ### Numerals -/

namespace Scanner

theorem step_word (h : isWordChar (Char.ofUInt8 byte) = true) :
    step ⟨tokens, .word letters⟩ byte = some ⟨tokens, .word (Char.ofUInt8 byte :: letters)⟩ := if_pos h

theorem foldlM_word (h : ∀ c ∈ written.map Char.ofUInt8, isWordChar c = true) :
    written.foldlM step ⟨tokens, .word letters⟩ =
      some ⟨tokens, .word ((written.map Char.ofUInt8).reverse ++ letters)⟩ := by
  induction written generalizing letters with
  | nil => rfl
  | cons byte rest ih =>
    obtain ⟨hfirst, hrest⟩ := List.forall_mem_cons.mp h
    rw [List.foldlM_cons, step_word hfirst]
    show rest.foldlM step ⟨tokens, .word (Char.ofUInt8 byte :: letters)⟩ = _
    rw [ih hrest, List.map_cons, List.reverse_cons, List.append_assoc]
    rfl

theorem begin_word (h : isWordChar c = true) : begin tokens c = some ⟨tokens, .word [c]⟩ := by
  have hblank : ¬ isBlank c = true := by
    simp only [isBlank, Bool.or_eq_true, decide_eq_true_eq]
    rintro (((rfl | rfl) | rfl) | rfl) <;> exact absurd h (by decide)
  have hquote : c ≠ '"' := by
    rintro rfl
    exact absurd h (by decide)
  unfold begin
  rw [if_neg hblank, if_neg hquote, if_pos h]

end Scanner

/-- A word by itself is one token. -/
theorem tokensOf?_word (hne : written ≠ []) (h : ∀ c ∈ written.map Char.ofUInt8, isWordChar c = true) :
    tokensOf? written = (wordToken? (written.map Char.ofUInt8)).map ([·]) := by
  obtain ⟨byte, rest, rfl⟩ := List.exists_cons_of_ne_nil hne
  obtain ⟨hfirst, hrest⟩ := List.forall_mem_cons.mp h
  have hscan : (byte :: rest).foldlM Scanner.step Scanner.start =
      some ⟨[], .word ((byte :: rest).map Char.ofUInt8).reverse⟩ := by
    rw [List.foldlM_cons]
    show (Scanner.begin [] (Char.ofUInt8 byte)).bind (rest.foldlM Scanner.step ·) = _
    rw [Scanner.begin_word hfirst]
    show rest.foldlM Scanner.step ⟨[], .word [Char.ofUInt8 byte]⟩ = _
    rw [Scanner.foldlM_word hrest, List.map_cons, List.reverse_cons]
  unfold tokensOf?
  rw [hscan]
  show (wordToken? ((byte :: rest).map Char.ofUInt8).reverse.reverse).map _ = _
  rw [List.reverse_reverse]
  rfl

/-- A numeral begins with a minus sign or a digit, -/
theorem spells_cons (h : Numeral.Spells letters numeral) :
    ∃ c rest, letters = c :: rest ∧ (c = '-' ∨ c.isDigit = true) := by
  cases h with
  | minus _ _ _ => exact ⟨'-', _, rfl, .inl rfl⟩
  | @plain whole point power _ _ hwhole _ _ =>
    obtain ⟨c, rest, rfl⟩ := List.exists_cons_of_ne_nil (Numeral.areDigits_iff.mp hwhole.digits).1
    exact ⟨c, rest ++ point ++ power, rfl, .inr (hwhole.isDigit c List.mem_cons_self)⟩

/-- so it is none of the words with a meaning of their own. -/
theorem wordToken?_of_spells (h : Numeral.Spells letters numeral) : wordToken? letters = some (.number numeral) := by
  have hfirst : letters.head? ≠ some 'n' ∧ letters.head? ≠ some 't' ∧ letters.head? ≠ some 'f' := by
    obtain ⟨c, rest, rfl, hc⟩ := spells_cons h
    refine ⟨?_, ?_, ?_⟩ <;> rintro ⟨⟩ <;> exact absurd hc (by decide)
  have hnull : letters ≠ ['n', 'u', 'l', 'l'] := by
    rintro rfl
    exact hfirst.1 rfl
  have htrue : letters ≠ ['t', 'r', 'u', 'e'] := by
    rintro rfl
    exact hfirst.2.1 rfl
  have hfalse : letters ≠ ['f', 'a', 'l', 's', 'e'] := by
    rintro rfl
    exact hfirst.2.2 rfl
  unfold wordToken?
  rw [if_neg hnull, if_neg htrue, if_neg hfalse, Numeral.ofText?_eq_some_iff.mpr h]
  rfl

theorem isWordChar_of_isDigit (h : c.isDigit = true) : isWordChar c = true := by
  simp [isWordChar, Char.isAlphanum, h]

theorem isWordChar_of_areDigits (h : Numeral.areDigits text = true) : ∀ c ∈ text, isWordChar c = true :=
  fun c hc => isWordChar_of_isDigit ((Numeral.areDigits_iff.mp h).2 c hc)

theorem isWordChar_of_fraction {fraction : Option (List Char)} (h : Numeral.Fraction text fraction) :
    ∀ c ∈ text, isWordChar c = true := by
  cases h with
  | absent => exact nofun
  | present hdigits => exact List.forall_mem_cons.mpr ⟨by decide, isWordChar_of_areDigits hdigits⟩

theorem isWordChar_of_power {exponent : Option (Bool × List Char)} (h : Numeral.Power text exponent) :
    ∀ c ∈ text, isWordChar c = true := by
  have hmark : ∀ c, Numeral.isExponentMark c = true → isWordChar c = true := by
    intro c hc
    obtain rfl | rfl := Numeral.isExponentMark_iff.mp hc <;> decide
  cases h with
  | absent => exact nofun
  | unsigned hmarked hdigits =>
    exact List.forall_mem_cons.mpr ⟨hmark _ hmarked, isWordChar_of_areDigits hdigits⟩
  | plus hmarked hdigits =>
    have hsign : isWordChar '+' = true := by decide
    refine List.forall_mem_cons.mpr ⟨hmark _ hmarked, ?_⟩
    exact List.forall_mem_cons.mpr ⟨hsign, isWordChar_of_areDigits hdigits⟩
  | minus hmarked hdigits =>
    have hsign : isWordChar '-' = true := by decide
    refine List.forall_mem_cons.mpr ⟨hmark _ hmarked, ?_⟩
    exact List.forall_mem_cons.mpr ⟨hsign, isWordChar_of_areDigits hdigits⟩

theorem isWordChar_of_spells (h : Numeral.Spells letters numeral) : ∀ c ∈ letters, isWordChar c = true := by
  cases h with
  | plain hwhole hpoint hpower =>
    have hfront := List.forall_mem_append.mpr ⟨isWordChar_of_areDigits hwhole.digits, isWordChar_of_fraction hpoint⟩
    exact List.forall_mem_append.mpr ⟨hfront, isWordChar_of_power hpower⟩
  | minus hwhole hpoint hpower =>
    have hfront := List.forall_mem_append.mpr ⟨isWordChar_of_areDigits hwhole.digits, isWordChar_of_fraction hpoint⟩
    have hall := List.forall_mem_append.mpr ⟨hfront, isWordChar_of_power hpower⟩
    exact List.forall_mem_cons.mpr ⟨by decide, hall⟩

/-- **A numeral by itself is a document.** -/
theorem ofBytes?_numeral (h : Numeral.Spells (written.map Char.ofUInt8) numeral) :
    Document.ofBytes? written = some (.number numeral) := by
  have hne : written ≠ [] := by
    obtain ⟨_, _, hletters, _⟩ := spells_cons h
    rintro rfl
    cases hletters
  unfold Document.ofBytes?
  rw [tokensOf?_word hne (isWordChar_of_spells h), wordToken?_of_spells h]
  rfl

/-! ### Strings -/

/-- A byte that stands for itself inside a string. -/
structure IsPlain (byte : UInt8) : Prop where
  quote : Char.ofUInt8 byte ≠ '"'
  backslash : Char.ofUInt8 byte ≠ '\x5c'
  control : ¬ byte < 0x20

/-- A character that need not be escaped is written in bytes that stand for themselves. -/
theorem isPlain_of_mem_utf8EncodeChar (hquote : c ≠ '"') (hbackslash : c ≠ '\x5c')
    (hcontrol : ¬ c.toNat < 0x20) : ∀ byte ∈ String.utf8EncodeChar c, IsPlain byte := by
  intro byte hbyte
  by_cases hlt : c.toNat < 128
  · rw [Hex.utf8EncodeChar_of_lt hlt, List.mem_singleton] at hbyte
    subst hbyte
    have hnumber : (UInt8.ofNat c.toNat).toNat = c.toNat :=
      UInt8.toNat_ofNat_of_lt' (Nat.lt_trans hlt (by decide))
    refine ⟨?_, ?_, ?_⟩
    · rwa [ofUInt8_of_lt hlt]
    · rwa [ofUInt8_of_lt hlt]
    · rwa [UInt8.lt_iff_toNat_lt, hnumber]
  · -- No byte of a longer encoding is an ASCII character.
    have hlarge := Hex.le_of_mem_utf8EncodeChar (Nat.le_of_not_lt hlt) hbyte
    have hchar : (Char.ofUInt8 byte).toNat = byte.toNat := rfl
    refine ⟨?_, ?_, ?_⟩
    · intro heq
      rw [heq] at hchar
      exact absurd (hchar ▸ hlarge) (by decide)
    · intro heq
      rw [heq] at hchar
      exact absurd (hchar ▸ hlarge) (by decide)
    · rw [UInt8.lt_iff_toNat_lt]
      exact Nat.not_lt_of_le (Nat.le_trans (by decide) hlarge)

namespace Scanner

theorem step_string (h : IsPlain byte) :
    step ⟨tokens, .string pieces⟩ byte = some ⟨tokens, .string (.byte byte :: pieces)⟩ := by
  show (if _ then _ else if _ then _ else if _ then _ else _) = _
  rw [if_neg h.quote, if_neg h.backslash, if_neg h.control]

theorem foldlM_string (h : ∀ byte ∈ bytes, IsPlain byte) :
    bytes.foldlM step ⟨tokens, .string pieces⟩ = some ⟨tokens, .string ((bytes.map .byte).reverse ++ pieces)⟩ := by
  induction bytes generalizing pieces with
  | nil => rfl
  | cons byte rest ih =>
    obtain ⟨hfirst, hrest⟩ := List.forall_mem_cons.mp h
    rw [List.foldlM_cons, step_string hfirst]
    show rest.foldlM step ⟨tokens, .string (.byte byte :: pieces)⟩ = _
    rw [ih hrest, List.map_cons, List.reverse_cons, List.append_assoc]
    rfl

end Scanner

/-- **Plain bytes between quotation marks are a document.** -/
theorem ofBytes?_quoted (h : ∀ byte ∈ bytes, IsPlain byte) :
    Document.ofBytes? (0x22 :: bytes ++ [0x22]) = some (.string (bytes.map .byte)) := by
  have hscan : (0x22 :: bytes ++ [0x22]).foldlM Scanner.step Scanner.start =
      some ⟨[.string (bytes.map .byte)], .between⟩ := by
    rw [List.cons_append, List.foldlM_cons]
    show (bytes ++ [0x22]).foldlM Scanner.step ⟨[], .string []⟩ = _
    rw [List.foldlM_append, Scanner.foldlM_string h, List.append_nil]
    show some (Scanner.mk [.string (bytes.map Piece.byte).reverse.reverse] .between) = _
    rw [List.reverse_reverse]
  unfold Document.ofBytes? tokensOf?
  rw [hscan]
  rfl

/-- Bytes stand for themselves. -/
theorem bytesOfPieces?_append (bytes done : List UInt8) (rest : List Piece) :
    bytesOfPieces? done (bytes.map .byte ++ rest) = bytesOfPieces? (bytes.reverse ++ done) rest := by
  induction bytes generalizing done with
  | nil => rfl
  | cons byte bytes ih =>
    show bytesOfPieces? (byte :: done) (bytes.map .byte ++ rest) = _
    rw [ih, List.reverse_cons, List.append_assoc]
    rfl

theorem bytesOfPieces?_bytes (done bytes : List UInt8) :
    bytesOfPieces? done (bytes.map .byte) = some (bytes.reverse ++ done) := by
  rw [← List.append_nil (bytes.map Piece.byte), bytesOfPieces?_append]
  rfl

/-- The bytes of a text make that text. -/
theorem textOf?_utf8 (text : List Char) : textOf? ((utf8 text).map .byte) = some (String.ofList text) := by
  unfold textOf?
  rw [bytesOfPieces?_bytes]
  show String.fromUTF8? ⟨((utf8 text).reverse ++ []).reverse.toArray⟩ = _
  rw [List.append_nil, List.reverse_reverse]
  have hbytes : (⟨(utf8 text).toArray⟩ : ByteArray) = text.utf8Encode := by
    apply ByteArray.ext
    apply Array.ext'
    show utf8 text = (utf8 text).toByteArray.data.toList
    rw [List.toList_data_toByteArray]
  rw [hbytes]
  unfold String.fromUTF8?
  rw [dif_pos ByteArray.isValidUTF8_utf8Encode, Option.some.injEq, ← String.toByteArray_inj, String.toByteArray_ofList]
  rfl

end DutyRelay.Json
