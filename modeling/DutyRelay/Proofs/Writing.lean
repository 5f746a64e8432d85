import DutyRelay.Json.Value
import DutyRelay.Proofs.Documents

/-!
# Written values are read back

The writer goes along a value, the scanner along the bytes, and the reader along the tokens. Each part of a value is
written as a text that the scanner cuts into tokens wherever it stands, and the tokens make a document whatever brackets
are open around them. Such texts are put together as the writer puts them together, so what is written is read back:
strings with all their characters, integers within 64 bits with all their digits, and arrays in their order. The fields
of an object come back in the order of their names.

## Contents
- `Character`, `exists_character`: a character inside a string, however it is written.
- `Scanner.Holds`, `Opens`, `Closed`: texts that are cut into tokens wherever they stand.
- `exists_closed_writeText`: strings.
- `Makes`: tokens that make a document inside any brackets.
- `Conveys`, `ConveysItems`, `ConveysFields`: texts that stand for documents, and for what follows in a bracket.
- `ReadsAs`: texts that stand for values; `readsAs_integer`, `readsAs_string`, `readsAs_array`, `readsAs_object`.
- `Value.Fits`, `ofBytes?_write`: values that are read back as they are.
-/

namespace DutyRelay.Json

open Hex (utf8)

theorem utf8_append (front back : List Char) : utf8 (front ++ back) = utf8 front ++ utf8 back := List.flatMap_append

/-- A pass over two parts goes on from where the first one has led. -/
theorem foldlM_append_of_some {α σ : Type} {step : σ → α → Option σ} {front back : List α} {state next : σ}
    (h : front.foldlM step state = some next) : (front ++ back).foldlM step state = back.foldlM step next := by
  rw [List.foldlM_append, h]
  rfl

/-! ## Characters -/

/-- A text that stands for a character inside a string. -/
structure Character (written : List Char) (c : Char) (pieces : List Piece) : Prop where
  scan : ∀ tokens before, (utf8 written).foldlM Scanner.step ⟨tokens, .string before⟩ =
    some ⟨tokens, .string (pieces.reverse ++ before)⟩
  bytes : ∀ done rest, bytesOfPieces? done (pieces ++ rest) =
    bytesOfPieces? ((String.utf8EncodeChar c).reverse ++ done) rest

/-- A backslash and a letter. -/
theorem character_escaped {letter c : Char} {value : UInt8}
    (hletter : letter = '"' ∨ letter = '\x5c' ∨ letter = 'b' ∨ letter = 'f' ∨ letter = 'n' ∨ letter = 'r' ∨ letter = 't')
    (hvalue : escaped? letter = some value) (hbytes : String.utf8EncodeChar c = [value]) :
    Character ['\x5c', letter] c [.byte value] := by
  constructor
  · intro tokens before
    rcases hletter with rfl | rfl | rfl | rfl | rfl | rfl | rfl <;> cases hvalue <;> rfl
  · intro done rest
    rw [hbytes]
    rfl

/-- One digit of a character that is written by number. -/
theorem step_unit {tokens : List Token} {before : List Piece} {missing value digit : Nat} {byte : UInt8}
    (h : Hex.digitValue? byte = some digit) :
    Scanner.step ⟨tokens, .unit before missing value⟩ byte =
      if missing ≤ 1 then some ⟨tokens, .string (.unit (16 * value + digit) :: before)⟩
      else some ⟨tokens, .unit before (missing - 1) (16 * value + digit)⟩ := by
  unfold Scanner.step
  simp only [h, Option.bind_eq_bind, Option.bind_some]

/-- Units below the surrogates stand for themselves. -/
theorem bytesOfPieces?_unit {unit : Nat} (h : unit < 0xd800) (done : List UInt8) (rest : List Piece) :
    bytesOfPieces? done (.unit unit :: rest) =
      bytesOfPieces? ((String.utf8EncodeChar (Char.ofNat unit)).reverse ++ done) rest := by
  have hhigh : isHighSurrogate unit = false := by
    simp only [isHighSurrogate, Bool.and_eq_false_iff, decide_eq_false_iff_not]
    omega
  have hlow : isLowSurrogate unit = false := by
    simp only [isLowSurrogate, Bool.and_eq_false_iff, decide_eq_false_iff_not]
    omega
  -- The reader looks at the next piece, for the second half of a pair.
  rcases rest with _ | ⟨_ | next, rest⟩
  all_goals simp [bytesOfPieces?, hhigh, hlow]

/-- A character that is written by number. -/
theorem character_numbered {c : Char} (h : c.toNat < 0x20) :
    Character ['\x5c', 'u', '0', '0', Hex.digit (c.toNat / 16), Hex.digit (c.toNat % 16)] c [.unit c.toNat] := by
  obtain ⟨high, hhigh, hhighDigit⟩ := Hex.utf8_digit (show c.toNat / 16 < 16 by omega)
  obtain ⟨low, hlow, hlowDigit⟩ := Hex.utf8_digit (show c.toNat % 16 < 16 by omega)
  constructor
  · intro tokens before
    have hwritten : utf8 ['\x5c', 'u', '0', '0', Hex.digit (c.toNat / 16), Hex.digit (c.toNat % 16)] =
        [0x5c, 0x75, 0x30, 0x30, high, low] := by
      show utf8 (['\x5c', 'u', '0', '0'] ++ ([Hex.digit (c.toNat / 16)] ++ [Hex.digit (c.toNat % 16)])) = _
      rw [utf8_append, utf8_append, hhigh, hlow]
      rfl
    rw [hwritten]
    show [high, low].foldlM Scanner.step ⟨tokens, .unit before 2 0⟩ = _
    have hvalue : 16 * (16 * 0 + c.toNat / 16) + c.toNat % 16 = c.toNat := by omega
    rw [List.foldlM_cons, step_unit hhighDigit]
    show [low].foldlM Scanner.step ⟨tokens, .unit before 1 (16 * 0 + c.toNat / 16)⟩ = _
    rw [List.foldlM_cons, step_unit hlowDigit, hvalue]
    rfl
  · intro done rest
    show bytesOfPieces? done (.unit c.toNat :: rest) = _
    rw [bytesOfPieces?_unit (Nat.lt_trans h (by decide)), Char.ofNat_toNat]

/-- A character that is written as it is. -/
theorem character_plain {c : Char} (hquote : c ≠ '"') (hbackslash : c ≠ '\x5c') (hcontrol : ¬ c.toNat < 0x20) :
    Character [c] c ((String.utf8EncodeChar c).map .byte) := by
  constructor
  · intro tokens before
    have hwritten : utf8 [c] = String.utf8EncodeChar c := List.append_nil _
    rw [hwritten]
    exact Scanner.foldlM_string (isPlain_of_mem_utf8EncodeChar hquote hbackslash hcontrol)
  · exact bytesOfPieces?_append _

/-- **Every character is written so that it is read back.** -/
theorem exists_character (c : Char) : ∃ pieces, Character (Value.writeChar c) c pieces := by
  unfold Value.writeChar
  -- The seven characters that are written by letter come first.
  iterate 7
    split
    · next h =>
      subst h
      exact ⟨_, character_escaped (by simp) rfl rfl⟩
  split
  · next h => exact ⟨_, character_numbered h⟩
  · exact ⟨_, character_plain ‹_› ‹_› ‹_›⟩

/-! ## Tokens -/

namespace Scanner

/-- The tokens have been read, the last one first. The scanner may still be inside that one if it is a word. -/
inductive Holds : List Token → Scanner → Prop
  | between {tokens : List Token} : Holds tokens ⟨tokens, .between⟩
  | word {tokens : List Token} {letters : List Char} {token : Token} (ends : wordToken? letters.reverse = some token) :
      Holds (token :: tokens) ⟨tokens, .word letters⟩

variable {tokens : List Token} {scanner : Scanner} {byte : UInt8}

theorem Holds.finish_eq (h : Holds tokens scanner) : scanner.finish = some tokens.reverse := by
  cases h with
  | between => rfl
  | word ends =>
    unfold Scanner.finish
    simp only [ends, Option.map_some]

/-- A byte that cannot go on with a word begins what comes next. -/
theorem Holds.step_eq (h : Holds tokens scanner) (hbyte : isWordChar (Char.ofUInt8 byte) = false) :
    scanner.step byte = begin tokens (Char.ofUInt8 byte) := by
  cases h with
  | between => rfl
  | word ends =>
    unfold Scanner.step
    simp only [hbyte, ends, Option.bind_eq_bind, Option.bind_some]
    rfl

end Scanner

variable {front middle back text letters : List Char} {s t u : List Token} {token : Token} {c : Char}

/-- A text that is cut into tokens wherever a token may begin. It may end in a word that goes on. -/
def Opens (text : List Char) (tokens : List Token) : Prop :=
  ∀ done, ∃ scanner, (utf8 text).foldlM Scanner.step ⟨done, .between⟩ = some scanner ∧
    scanner.Holds (tokens.reverse ++ done)

/-- A text that is cut into tokens right behind a word, too, and ends with its last token. -/
def Closed (text : List Char) (tokens : List Token) : Prop :=
  ∀ done scanner, Scanner.Holds done scanner →
    (utf8 text).foldlM Scanner.step scanner = some ⟨tokens.reverse ++ done, .between⟩

theorem Closed.opens (h : Closed text t) : Opens text t :=
  fun done => ⟨_, h done _ .between, .between⟩

theorem Closed.append (hfront : Closed front s) (hback : Closed back t) : Closed (front ++ back) (s ++ t) := by
  intro done scanner hscanner
  rw [utf8_append, foldlM_append_of_some (hfront done scanner hscanner), hback _ _ .between, List.reverse_append,
    List.append_assoc]

/-- What may end in a word is closed by what follows. -/
theorem Closed.around (hfront : Closed front s) (hmiddle : Opens middle t) (hback : Closed back u) :
    Closed (front ++ middle ++ back) (s ++ t ++ u) := by
  intro done scanner hscanner
  obtain ⟨next, hnext, hholds⟩ := hmiddle (s.reverse ++ done)
  rw [utf8_append, utf8_append, List.append_assoc, foldlM_append_of_some (hfront done scanner hscanner),
    foldlM_append_of_some hnext, hback _ _ hholds]
  simp only [List.reverse_append, List.append_assoc]

theorem closed_punctuation (h : punctuation? c = some token) : Closed [c] [token] := by
  intro done scanner hscanner
  unfold punctuation? at h
  split at h
  case h_7 => cases h
  all_goals
    cases h
    show (scanner.step _).bind _ = _
    rw [hscanner.step_eq (by rfl)]
    rfl

/-- The letters of a word are among the first 128 characters. -/
theorem lt_of_isWordChar (h : isWordChar c = true) : c.toNat < 128 := by
  simp only [isWordChar, Char.isAlphanum, Bool.or_eq_true, decide_eq_true_eq] at h
  rcases h with (((hletter | hdigit) | rfl) | rfl) | rfl
  · rcases Bool.or_eq_true_iff.mp (hletter : (c.isUpper || c.isLower) = true) with hupper | hlower
    · obtain ⟨-, hle⟩ : c.val ≥ 'A'.val ∧ c.val ≤ 'Z'.val := of_decide_eq_true hupper
      exact Nat.lt_of_le_of_lt (UInt32.le_iff_toNat_le.mp hle) (by decide)
    · have hle : c.val ≤ 'z'.val := of_decide_eq_true (Bool.and_eq_true_iff.mp hlower).2
      exact Nat.lt_of_le_of_lt (UInt32.le_iff_toNat_le.mp hle) (by decide)
  · exact Nat.lt_of_le_of_lt (Char.isDigit_iff_toNat.mp hdigit).2 (by decide)
  all_goals decide

theorem opens_word (hletters : letters.all isWordChar = true) (h : wordToken? letters = some token)
    (hne : letters ≠ []) : Opens letters [token] := by
  intro done
  obtain ⟨c, rest, rfl⟩ := List.exists_cons_of_ne_nil hne
  obtain ⟨hfirst, hrest⟩ := List.forall_mem_cons.mp (List.all_eq_true.mp hletters)
  have hchars : (utf8 rest).map Char.ofUInt8 = rest :=
    map_ofUInt8_utf8 fun c hc => lt_of_isWordChar (hrest c hc)
  have hcons : utf8 (c :: rest) = UInt8.ofNat c.toNat :: utf8 rest := by
    show String.utf8EncodeChar c ++ utf8 rest = _
    rw [Hex.utf8EncodeChar_of_lt (lt_of_isWordChar hfirst)]
    rfl
  refine ⟨⟨done, .word (rest.reverse ++ [c])⟩, ?_, .word (by rw [List.reverse_append, List.reverse_reverse]; exact h)⟩
  rw [hcons, List.foldlM_cons]
  show (Scanner.begin done (Char.ofUInt8 (UInt8.ofNat c.toNat))).bind _ = _
  rw [ofUInt8_of_lt (lt_of_isWordChar hfirst), Scanner.begin_word hfirst]
  show (utf8 rest).foldlM Scanner.step ⟨done, .word [c]⟩ = _
  rw [Scanner.foldlM_word (by rwa [hchars]), hchars]

/-- The characters of a text inside a string. -/
theorem exists_pieces (text : List Char) : ∃ pieces,
    (∀ tokens before, (utf8 (text.flatMap Value.writeChar)).foldlM Scanner.step ⟨tokens, .string before⟩ =
      some ⟨tokens, .string (pieces.reverse ++ before)⟩) ∧
    ∀ done, bytesOfPieces? done pieces = some ((utf8 text).reverse ++ done) := by
  induction text with
  | nil => exact ⟨[], fun _ _ => rfl, fun _ => rfl⟩
  | cons c rest ih =>
    obtain ⟨pieces, hcharacter⟩ := exists_character c
    obtain ⟨others, hscan, hbytes⟩ := ih
    refine ⟨pieces ++ others, ?_, ?_⟩
    · intro tokens before
      rw [List.flatMap_cons, utf8_append, foldlM_append_of_some (hcharacter.scan tokens before), hscan,
        List.reverse_append, List.append_assoc]
    · intro done
      have hcons : utf8 (c :: rest) = String.utf8EncodeChar c ++ utf8 rest := rfl
      rw [hcharacter.bytes, hbytes, hcons, List.reverse_append, List.append_assoc]

/-- A text is known by its bytes, however they are written. -/
theorem textOf?_of_bytes {pieces : List Piece} (h : bytesOfPieces? [] pieces = some (utf8 text).reverse) :
    textOf? pieces = some (String.ofList text) := by
  have hplain := bytesOfPieces?_bytes [] (utf8 text)
  rw [List.append_nil] at hplain
  rw [← textOf?_utf8 text]
  unfold textOf?
  rw [h, hplain]

/-- **A string is written so that it is read back**, with all its characters. -/
theorem exists_closed_writeText (text : String) :
    ∃ pieces, Closed (Value.writeText text) [.string pieces] ∧ textOf? pieces = some text := by
  obtain ⟨pieces, hscan, hbytes⟩ := exists_pieces text.toList
  refine ⟨pieces, ?_, ?_⟩
  · intro done scanner hscanner
    have hwritten : utf8 (Value.writeText text) = 0x22 :: (utf8 (text.toList.flatMap Value.writeChar) ++ [0x22]) := by
      show utf8 (['"'] ++ text.toList.flatMap Value.writeChar ++ ['"']) = _
      rw [utf8_append, utf8_append]
      rfl
    rw [hwritten, List.foldlM_cons, hscanner.step_eq (by rfl)]
    show (utf8 _ ++ [0x22]).foldlM Scanner.step ⟨done, .string []⟩ = _
    rw [foldlM_append_of_some (hscan done []), List.append_nil]
    show some (Scanner.mk (.string pieces.reverse.reverse :: done) .between) = _
    rw [List.reverse_reverse]
    rfl
  · rw [textOf?_of_bytes (by rw [hbytes, List.append_nil]), String.ofList_toList]

/-! ## Documents -/

open Document (Reader ofBytes?)

variable {document : Document} {tokens : List Token}

/-- Tokens that make a document, whatever brackets are open around it. -/
def Makes (tokens : List Token) (document : Document) : Prop :=
  ∀ frames, tokens.foldlM Reader.step ⟨frames, .value⟩ = some ⟨frames, .after document⟩

/-- They make it as the first item of an array as well, since they do not begin with the end of one. -/
theorem Makes.first (h : Makes tokens document) (outer : List Document.Frame) :
    tokens.foldlM Reader.step ⟨outer, .firstItem outer⟩ = some ⟨.array [] :: outer, .after document⟩ := by
  cases tokens with
  | nil => cases h []
  | cons token rest =>
    have hsame : Reader.step ⟨outer, .firstItem outer⟩ token = Reader.step ⟨.array [] :: outer, .value⟩ token := by
      cases token with
      | closeArray => cases h []
      | _ => rfl
    rw [List.foldlM_cons, hsame]
    exact h (.array [] :: outer)

/-- A text that stands for a document. -/
def Conveys (text : List Char) (document : Document) : Prop :=
  ∃ tokens, Opens text tokens ∧ Makes tokens document

/-- A text that stands for further items of an array, and its end. -/
def ConveysItems (text : List Char) (items : List Document) : Prop :=
  ∃ tokens, Closed text tokens ∧ ∀ done item outer,
    tokens.foldlM Reader.step ⟨.array done :: outer, .after item⟩ =
      some ⟨outer, .after (.array (done.reverse ++ item :: items))⟩

/-- A text that stands for further fields of an object, and its end. -/
def ConveysFields (text : List Char) (fields : List (List Piece × Document)) : Prop :=
  ∃ tokens, Closed text tokens ∧ ∀ done name value outer,
    tokens.foldlM Reader.step ⟨.object done name :: outer, .after value⟩ =
      some ⟨outer, .after (.object (done.reverse ++ (name, value) :: fields))⟩

theorem Conveys.ofBytes?_eq (h : Conveys text document) : ofBytes? (utf8 text) = some document := by
  obtain ⟨tokens, hopens, hmakes⟩ := h
  obtain ⟨scanner, hscan, hholds⟩ := hopens []
  rw [List.append_nil] at hholds
  have htokens : tokensOf? (utf8 text) = some tokens := by
    show ((utf8 text).foldlM Scanner.step ⟨[], .between⟩).bind _ = _
    rw [hscan, Option.bind_some, hholds.finish_eq, List.reverse_reverse]
  unfold ofBytes? Document.ofTokens?
  rw [htokens, Option.bind_some, hmakes []]
  rfl

/-! ### Leaves -/

theorem conveys_null : Conveys ['n', 'u', 'l', 'l'] .null :=
  ⟨[.null], opens_word rfl rfl nofun, fun _ => rfl⟩

theorem conveys_true : Conveys ['t', 'r', 'u', 'e'] (.bool true) :=
  ⟨[.bool true], opens_word rfl rfl nofun, fun _ => rfl⟩

theorem conveys_false : Conveys ['f', 'a', 'l', 's', 'e'] (.bool false) :=
  ⟨[.bool false], opens_word rfl rfl nofun, fun _ => rfl⟩

theorem conveys_numeral {numeral : Numeral} (h : Numeral.Spells letters numeral) :
    Conveys letters (.number numeral) := by
  have hne : letters ≠ [] := by
    obtain ⟨_, _, rfl, -⟩ := spells_cons h
    nofun
  have hletters : letters.all isWordChar = true := List.all_eq_true.mpr (isWordChar_of_spells h)
  exact ⟨[.number numeral], opens_word hletters (wordToken?_of_spells h) hne, fun _ => rfl⟩

theorem exists_conveys_text (text : String) :
    ∃ pieces, Conveys (Value.writeText text) (.string pieces) ∧ textOf? pieces = some text := by
  obtain ⟨pieces, hclosed, htext⟩ := exists_closed_writeText text
  exact ⟨pieces, ⟨_, hclosed.opens, fun _ => rfl⟩, htext⟩

/-! ### Brackets -/

theorem conveys_emptyArray : Conveys ['[', ']'] (.array []) :=
  ⟨[.openArray] ++ [.closeArray], ((closed_punctuation rfl).append (closed_punctuation rfl)).opens, fun _ => rfl⟩

theorem conveys_array {first : List Char} {items : List Document} (hfirst : Conveys first document)
    (hrest : ConveysItems text items) : Conveys ('[' :: first ++ text) (.array (document :: items)) := by
  obtain ⟨s, hopens, hmakes⟩ := hfirst
  obtain ⟨t, hclosed, hitems⟩ := hrest
  refine ⟨[.openArray] ++ s ++ t, ((closed_punctuation rfl).around hopens hclosed).opens, fun frames => ?_⟩
  show (s ++ t).foldlM Reader.step ⟨frames, .firstItem frames⟩ = _
  rw [foldlM_append_of_some (hmakes.first frames)]
  exact hitems [] document frames

theorem conveysItems_end : ConveysItems [']'] [] := by
  refine ⟨[.closeArray], closed_punctuation rfl, fun done item outer => ?_⟩
  show some (Reader.mk outer (.after (.array (item :: done).reverse))) = _
  rw [List.reverse_cons]

theorem ConveysItems.cons {item : List Char} {items : List Document} (hitem : Conveys item document)
    (hrest : ConveysItems text items) : ConveysItems (',' :: item ++ text) (document :: items) := by
  obtain ⟨s, hopens, hmakes⟩ := hitem
  obtain ⟨t, hclosed, hitems⟩ := hrest
  refine ⟨[.comma] ++ s ++ t, (closed_punctuation rfl).around hopens hclosed, fun done before outer => ?_⟩
  show (s ++ t).foldlM Reader.step ⟨.array (before :: done) :: outer, .value⟩ = _
  rw [foldlM_append_of_some (hmakes _), hitems, List.reverse_cons, List.append_assoc]
  rfl

theorem conveys_emptyObject : Conveys ['\x7b', '\x7d'] (.object []) :=
  ⟨[.openObject] ++ [.closeObject], ((closed_punctuation rfl).append (closed_punctuation rfl)).opens, fun _ => rfl⟩

section Fields

variable {name : List Piece} {written first : List Char} {fields : List (List Piece × Document)}

/-- A field behind the mark in front of it. -/
theorem closed_field (hmark : punctuation? c = some token) (hname : Closed written [.string name])
    (hfirst : Opens first s) (hrest : Closed text t) :
    Closed (c :: written ++ ':' :: first ++ text) ([token, .string name, .colon] ++ s ++ t) := by
  have hfront : Closed ([c] ++ written ++ [':']) ([token] ++ [.string name] ++ [.colon]) :=
    ((closed_punctuation hmark).append hname).append (closed_punctuation rfl)
  simpa using hfront.around hfirst hrest

theorem conveys_object (hname : Closed written [.string name]) (hfirst : Conveys first document)
    (hrest : ConveysFields text fields) :
    Conveys ('\x7b' :: written ++ ':' :: first ++ text) (.object ((name, document) :: fields)) := by
  obtain ⟨s, hopens, hmakes⟩ := hfirst
  obtain ⟨t, hclosed, hfields⟩ := hrest
  refine ⟨[.openObject, .string name, .colon] ++ s ++ t, (closed_field rfl hname hopens hclosed).opens,
    fun frames => ?_⟩
  show (s ++ t).foldlM Reader.step ⟨.object [] name :: frames, .value⟩ = _
  rw [foldlM_append_of_some (hmakes _)]
  exact hfields [] name document frames

theorem conveysFields_end : ConveysFields ['\x7d'] [] := by
  refine ⟨[.closeObject], closed_punctuation rfl, fun done name value outer => ?_⟩
  show some (Reader.mk outer (.after (.object ((name, value) :: done).reverse))) = _
  rw [List.reverse_cons]

theorem ConveysFields.cons (hname : Closed written [.string name]) (hfirst : Conveys first document)
    (hrest : ConveysFields text fields) :
    ConveysFields (',' :: written ++ ':' :: first ++ text) ((name, document) :: fields) := by
  obtain ⟨s, hopens, hmakes⟩ := hfirst
  obtain ⟨t, hclosed, hfields⟩ := hrest
  refine ⟨[.comma, .string name, .colon] ++ s ++ t, closed_field rfl hname hopens hclosed,
    fun done before value outer => ?_⟩
  show (s ++ t).foldlM Reader.step ⟨.object ((before, value) :: done) name :: outer, .value⟩ = _
  rw [foldlM_append_of_some (hmakes _), hfields, List.reverse_cons, List.append_assoc]
  rfl

end Fields

/-! ## Values -/

open Value (ofDocument? ofItems? ofMembers? ofFields ofNumeral?)

variable {depth : Nat} {value : Value}

/-- A text that stands for a value in which brackets nest at most `depth` deep. -/
def ReadsAs (depth : Nat) (text : List Char) (value : Value) : Prop :=
  ∃ document, Conveys text document ∧ ofDocument? depth document = some value

/-- Such a text is read as that value, if the reader follows brackets as deep. -/
theorem ReadsAs.ofBytes?_eq (h : ReadsAs Value.depthLimit text value) : Value.ofBytes? (utf8 text) = some value := by
  obtain ⟨document, hconveys, hvalue⟩ := h
  unfold Value.ofBytes?
  rw [hconveys.ofBytes?_eq, Option.bind_some, hvalue]

theorem readsAs_null : ReadsAs depth (Value.write .null) .null := ⟨_, conveys_null, rfl⟩

theorem readsAs_bool (truth : Bool) : ReadsAs depth (Value.write (.bool truth)) (.bool truth) := by
  cases truth with
  | true => exact ⟨_, conveys_true, rfl⟩
  | false => exact ⟨_, conveys_false, rfl⟩

theorem readsAs_string (text : String) : ReadsAs depth (Value.write (.string text)) (.string text) := by
  obtain ⟨pieces, hconveys, htext⟩ := exists_conveys_text text
  refine ⟨.string pieces, hconveys, ?_⟩
  show (textOf? pieces).map Value.string = _
  rw [htext]
  rfl

theorem readsAs_numeral {numeral : Numeral} (hspells : Numeral.Spells letters numeral)
    (h : ofNumeral? numeral = some value) : ReadsAs depth letters value := ⟨_, conveys_numeral hspells, h⟩

/-- An integer is written in the digits of its size, behind a minus sign if it is negative. -/
theorem exists_spells_writeInteger (n : Int) :
    ∃ numeral, Numeral.Spells (Value.writeInteger n) numeral ∧ numeral.integer? = some n := by
  cases n with
  | ofNat n =>
    refine ⟨_, Numeral.spells_toDigits n, ?_⟩
    show some ((Word.ofDigits (Nat.toDigits 10 n) : Nat) : Int) = _
    rw [(Word.decimal_toDigits n).ofDigits_eq]
    rfl
  | negSucc n =>
    have hdecimal := Word.decimal_toDigits (n + 1)
    have hwhole : Numeral.IsWhole (Nat.toDigits 10 (n + 1)) :=
      ⟨Numeral.areDigits_iff.mpr ⟨hdecimal.ne_nil, hdecimal.isDigit⟩, Word.head?_toDigits (n + 1)⟩
    have hspells := Numeral.Spells.minus hwhole .absent .absent
    rw [List.append_nil, List.append_nil] at hspells
    refine ⟨_, hspells, ?_⟩
    show (if Word.ofDigits (Nat.toDigits 10 (n + 1)) = 0 then none
      else some (-((Word.ofDigits (Nat.toDigits 10 (n + 1)) : Nat) : Int))) = _
    rw [hdecimal.ofDigits_eq, if_neg (Nat.succ_ne_zero n)]
    rfl

theorem readsAs_integer {n : Int} (h : -(Word.signBound : Int) ≤ n ∧ n ≤ Word.top) :
    ReadsAs depth (Value.write (.integer n)) (.integer n) := by
  obtain ⟨numeral, hspells, hinteger⟩ := exists_spells_writeInteger n
  refine readsAs_numeral hspells ?_
  unfold ofNumeral?
  simp only [hinteger, if_pos h]

theorem ofItems?_cons {documents : List Document} {values : List Value}
    (hvalue : ofDocument? depth document = some value) (hvalues : ofItems? depth documents = some values) :
    ofItems? depth (document :: documents) = some (value :: values) := by
  unfold ofItems?
  rw [hvalue, hvalues]
  rfl

theorem ofMembers?_cons {pieces : List Piece} {name : String} {documents : List (List Piece × Document)}
    {values : List (String × Value)} (hname : textOf? pieces = some name)
    (hvalue : ofDocument? depth document = some value) (hvalues : ofMembers? depth documents = some values) :
    ofMembers? depth ((pieces, document) :: documents) = some ((name, value) :: values) := by
  unfold ofMembers?
  rw [hname, hvalue, hvalues]
  rfl

theorem exists_conveysItems {items : List Value} (h : ∀ item ∈ items, ReadsAs depth item.write item) :
    ∃ documents, ConveysItems (Value.writeItems items) documents ∧ ofItems? depth documents = some items := by
  induction items with
  | nil => exact ⟨[], conveysItems_end, rfl⟩
  | cons item rest ih =>
    obtain ⟨⟨document, hconveys, hvalue⟩, hrest⟩ := List.forall_mem_cons.mp h
    obtain ⟨documents, hitems, hvalues⟩ := ih hrest
    exact ⟨_, hitems.cons hconveys, ofItems?_cons hvalue hvalues⟩

theorem exists_conveysFields {fields : List (String × Value)}
    (h : ∀ field ∈ fields, ReadsAs depth field.2.write field.2) :
    ∃ documents, ConveysFields (Value.writeFields fields) documents ∧ ofMembers? depth documents = some fields := by
  induction fields with
  | nil => exact ⟨[], conveysFields_end, rfl⟩
  | cons field rest ih =>
    obtain ⟨name, value⟩ := field
    obtain ⟨⟨document, hconveys, hvalue⟩, hrest⟩ := List.forall_mem_cons.mp h
    obtain ⟨documents, hfields, hvalues⟩ := ih hrest
    obtain ⟨pieces, hname, htext⟩ := exists_closed_writeText name
    exact ⟨_, hfields.cons hname hconveys, ofMembers?_cons htext hvalue hvalues⟩

/-- **An array is read back item by item.** -/
theorem readsAs_array {items : List Value} (h : ∀ item ∈ items, ReadsAs depth item.write item) :
    ReadsAs (depth + 1) (Value.write (.array items)) (.array items) := by
  cases items with
  | nil => exact ⟨_, conveys_emptyArray, rfl⟩
  | cons item rest =>
    obtain ⟨⟨document, hconveys, hvalue⟩, hrest⟩ := List.forall_mem_cons.mp h
    obtain ⟨documents, hitems, hvalues⟩ := exists_conveysItems hrest
    refine ⟨_, conveys_array hconveys hitems, ?_⟩
    show (ofItems? depth (document :: documents)).map Value.array = _
    rw [ofItems?_cons hvalue hvalues]
    rfl

/-- **An object is read back field by field**, and its fields are put in order. -/
theorem readsAs_object {fields : List (String × Value)} (h : ∀ field ∈ fields, ReadsAs depth field.2.write field.2) :
    ReadsAs (depth + 1) (Value.write (.object fields)) (ofFields fields) := by
  cases fields with
  | nil => exact ⟨_, conveys_emptyObject, rfl⟩
  | cons field rest =>
    obtain ⟨name, value⟩ := field
    obtain ⟨⟨document, hconveys, hvalue⟩, hrest⟩ := List.forall_mem_cons.mp h
    obtain ⟨documents, hfields, hvalues⟩ := exists_conveysFields hrest
    obtain ⟨pieces, hname, htext⟩ := exists_closed_writeText name
    refine ⟨_, conveys_object hname hconveys hfields, ?_⟩
    show (ofMembers? depth ((pieces, document) :: documents)).map ofFields = _
    rw [ofMembers?_cons htext hvalue hvalues]
    rfl

/-- The values that are read back as they are. Integers are within 64 bits, other numbers are as they are written, the
fields of objects are in order, and brackets nest at most `depth` deep. -/
inductive Value.Fits : Nat → Value → Prop
  | null {depth : Nat} : Fits depth .null
  | bool {depth : Nat} (truth : Bool) : Fits depth (.bool truth)
  | integer {depth : Nat} {n : Int} (within : -(Word.signBound : Int) ≤ n ∧ n ≤ Word.top) : Fits depth (.integer n)
  | decimal {depth : Nat} {numeral : Numeral} (spelled : Numeral.Spells numeral.text numeral)
      (read : ofNumeral? numeral = some (.decimal numeral)) : Fits depth (.decimal numeral)
  | string {depth : Nat} (text : String) : Fits depth (.string text)
  | array {depth : Nat} {items : List Value} (fit : ∀ item ∈ items, Fits depth item) : Fits (depth + 1) (.array items)
  | object {depth : Nat} {fields : List (String × Value)} (fit : ∀ field ∈ fields, Fits depth field.2)
      (ordered : ofFields fields = .object fields) : Fits (depth + 1) (.object fields)

theorem readsAs_of_fits (h : value.Fits depth) : ReadsAs depth value.write value := by
  induction h with
  | null => exact readsAs_null
  | bool truth => exact readsAs_bool truth
  | integer within => exact readsAs_integer within
  | decimal spelled read => exact readsAs_numeral spelled read
  | string text => exact readsAs_string text
  | array _ ih => exact readsAs_array ih
  | object _ ordered ih => exact ordered ▸ readsAs_object ih

/-- **What is written is read back.** -/
theorem ofBytes?_write (h : value.Fits Value.depthLimit) : Value.ofBytes? (utf8 value.write) = some value :=
  (readsAs_of_fits h).ofBytes?_eq

end DutyRelay.Json
