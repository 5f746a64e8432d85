import DutyRelay.Unicode.Direction
import DutyRelay.Unicode.Joining
import DutyRelay.Unicode.Mark
import DutyRelay.Unicode.Normal
import DutyRelay.Url.Domain.Mapping
import DutyRelay.Url.Punycode

/-!
# Labels of domain names

A label is the part of a domain between two dots. One with letters beyond ASCII goes out in
Punycode, behind four characters that say so; one that comes in like that has to be what such a
label would be written as. The letters have to be in normal form, begin with no mark, and join and
run in one direction.

## Contents
- `Label`, `Label.ofText?`.
- `Label.joinersFit`: whether joiners stand where they make a difference.
- `Label.hasRightToLeft`, `Label.runsOneWay`: the rules for directions.
-/

namespace DutyRelay.Url.Domain

/-- A label: the letters it stands for, and the ASCII text it is written as. -/
structure Label where
  letters : List Char
  written : List Char
deriving DecidableEq, Inhabited, Repr

namespace Label

open Unicode (Joining Direction joining direction)

/-! ## Joiners -/

/-- Whether the first letter that is not transparent joins as wanted. -/
def meetsLetter (joins : Joining → Bool) : List Char → Bool
  | [] => false
  | c :: rest => joins (joining c) || (joining c = .transparent && meetsLetter joins rest)

/-- Whether the joiners in a text stand behind a virama; one that parts letters may also stand
between two letters that would join across it. The text in front is held in reverse. -/
def joinersFit (before : List Char) : List Char → Bool
  | [] => true
  | c :: rest =>
    let behindVirama := before.head?.any fun last =>
      Unicode.combiningClass last = Unicode.viramaClass
    let partsLetters := meetsLetter (fun j => j = .left || j = .dual) before &&
      meetsLetter (fun j => j = .right || j = .dual) rest
    (if c = '\u200c' then behindVirama || partsLetters
      else if c = '\u200d' then behindVirama
      else true) && joinersFit (c :: before) rest

/-! ## Directions -/

/-- Whether a label has a letter or number that is written from right to left. -/
def hasRightToLeft (label : Label) : Bool :=
  label.letters.any fun c => direction c ∈ [.rightToLeft, .arabicLetter, .arabicNumber]

/-- What may stand in a label of either direction. -/
def anywhere : List Direction :=
  [.europeanNumber, .numberSeparator, .commonSeparator, .numberTerminator, .neutral,
    .boundaryNeutral, .nonspacingMark]

/-- Whether a label that begins from left to right stays so: no letter runs the other way, and it
ends with a letter or number. -/
def runsRight (directions : List Direction) (last : Direction) : Bool :=
  (directions.all fun d => d = .leftToRight || d ∈ anywhere) &&
    (last = .leftToRight || last = .europeanNumber)

/-- Whether a label that begins from right to left stays so: no letter runs the other way, numbers
are of one kind, and it ends with a letter or number. -/
def runsLeft (directions : List Direction) (last : Direction) : Bool :=
  (directions.all fun d => d ∈ [.rightToLeft, .arabicLetter, .arabicNumber] || d ∈ anywhere) &&
    last ∈ [.rightToLeft, .arabicLetter, .europeanNumber, .arabicNumber] &&
    !(directions.contains .europeanNumber && directions.contains .arabicNumber)

/-- Whether a label fits into a domain with letters from right to left. Marks at its end do not
count. -/
def runsOneWay (label : Label) : Bool :=
  let directions := label.letters.map direction
  match (directions.reverse.dropWhile (· = .nonspacingMark)).reverse with
  | [] => directions = []
  | first :: rest =>
    let last := rest.getLast?.getD first
    if first = .leftToRight then runsRight (first :: rest) last
    else if first = .rightToLeft || first = .arabicLetter then runsLeft (first :: rest) last
    else false

/-! ## Reading -/

/-- What a label in Punycode begins with. -/
def mark : List Char := "xn--".toList

/-- The longest label that is decoded, without the mark, and the longest that is encoded. -/
def longest : Nat × Nat := (2000, 1000)

/-- Whether letters may stand in a label, whatever is around it. -/
def fits (letters : List Char) : Bool :=
  !letters.head?.any Unicode.isMark && joinersFit [] letters

/-- The letters that a label in Punycode stands for. They have to be such that they would be written
so. -/
def unmarked? (text : List Char) : Option (List Char) := do
  guard (text.length ≤ longest.1 && text.getLast?.any (· ≠ '-'))
  let letters ← Punycode.decode? text
  guard (letters.all Mapping.isValid && Unicode.isNormal letters)
  return letters

/-- Reads a label whose characters have been replaced and are in normal form. -/
def ofText? (text : List Char) : Option Label := do
  let isPlain := text.all (·.toNat < 0x80)
  if mark.isPrefixOf text then
    guard isPlain
    let letters ← unmarked? (text.drop mark.length)
    guard (fits letters)
    return ⟨letters, text⟩
  else if isPlain then return ⟨text, text⟩
  else
    guard (text.length ≤ longest.2 && fits text)
    return ⟨text, mark ++ Punycode.encode text⟩

end Label
end DutyRelay.Url.Domain
