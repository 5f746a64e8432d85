import DutyRelay.Unicode.CombiningClass
import DutyRelay.Unicode.Decomposition

/-!
# The composed normal form

Two spellings of one text have the same normal form: every character is taken apart, marks are put
into the order of their classes, and then letters and marks are put together as far as they go.

## Contents
- `ordered`: marks in order.
- `composed`: letters and marks put together.
- `normalized`, `isNormal`.
-/

namespace DutyRelay.Unicode

/-! ## Order of marks -/

/-- Puts a character behind a text, which is held in reverse; a mark goes in front of the marks of
higher classes. -/
def insertMark (c : Char) : List Char → List Char
  | [] => [c]
  | last :: before =>
    if combiningClass c ≠ 0 && combiningClass c < combiningClass last then last :: insertMark c before
    else c :: last :: before

theorem length_insertMark (c : Char) (text : List Char) :
    (insertMark c text).length = text.length + 1 := by
  induction text with
  | nil => rfl
  | cons last before ih =>
    unfold insertMark
    split
    · simp [ih]
    · rfl

/-- A text with the marks behind each letter in the order of their classes. -/
def ordered (text : List Char) : List Char :=
  (text.foldl (fun done c => insertMark c done) []).reverse

theorem length_ordered (text : List Char) : (ordered text).length = text.length := by
  have key : ∀ done : List Char,
      (text.foldl (fun done c => insertMark c done) done).length = done.length + text.length := by
    induction text with
    | nil => simp
    | cons c rest ih =>
      intro done
      simp only [List.foldl_cons, ih, length_insertMark, List.length_cons]
      omega
  simpa [ordered] using key []

/-! ## Putting together -/

/-- A text that is being put together, held in reverse: what is finished, the last letter, and the
marks behind it that did not go into it. -/
structure Composing where
  finished : List Char
  letter : Option Char
  marks : List Char
deriving DecidableEq, Inhabited, Repr

namespace Composing

/-- All characters, in reverse. -/
def all (state : Composing) : List Char := state.marks ++ state.letter.toList ++ state.finished

/-- Whether nothing stands between the last letter and a character that follows: no mark of the same
or a higher class. -/
def isOpen (state : Composing) (c : Char) : Bool :=
  state.marks.head?.all fun mark => combiningClass mark < combiningClass c

/-- Leaves a character as it is. -/
def push (state : Composing) (c : Char) : Composing :=
  if combiningClass c = 0 then ⟨state.all, some c, []⟩
  else { state with marks := c :: state.marks }

/-- Puts a character into the last letter if the two make one, or leaves it as it is. -/
def step (state : Composing) (c : Char) : Composing :=
  match state.letter with
  | none => state.push c
  | some letter =>
    match composite? letter c with
    | some whole => if state.isOpen c then { state with letter := some whole } else state.push c
    | none => state.push c

end Composing

/-- A text with letters and marks put together, one after another. -/
def composed (text : List Char) : List Char :=
  (text.foldl Composing.step ⟨[], none, []⟩).all.reverse

/-! ## The normal form -/

/-- The composed normal form of a text. -/
def normalized (text : List Char) : List Char := composed (ordered (decompose text))

/-- Whether a text is its own normal form. -/
def isNormal (text : List Char) : Bool := normalized text = text

end DutyRelay.Unicode
