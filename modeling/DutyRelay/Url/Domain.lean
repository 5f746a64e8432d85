import DutyRelay.Url.Domain.Label

/-!
# Domain names

A domain is read in three steps: its characters are replaced by the ones that all their spellings
share, the text is brought into normal form, and the labels between the dots are read one by one.
The result is in ASCII, and has none of the characters that have a meaning in an address.

## Contents
- `Domain.mapped?`: characters replaced.
- `Domain.isForbidden`: what may not stand in a domain.
- `Domain.toAscii?`: the ASCII form of a domain.
-/

namespace DutyRelay.Url.Domain

/-- A text with every character replaced; none if one is refused. -/
def mapped? (text : List Char) : Option (List Char) := List.flatten <$> text.mapM Mapping.image?

/-- What may not stand in a domain: controls and blanks, and what has a meaning in an address. -/
def isForbidden (c : Char) : Bool :=
  c.toNat ≤ 0x20 || c.toNat = 0x7f || "#%/:<>?@[\\]^|".toList.contains c

/-- The ASCII form of a domain. The direction rules hold for every label if one label has letters
from right to left; a label without letters is exempt. -/
def toAscii? (text : List Char) : Option (List Char) := do
  let normal := Unicode.normalized (← mapped? text)
  guard (!normal.any isForbidden)
  let labels ← (Text.pieces (· = '.') normal).mapM Label.ofText?
  guard (!labels.any Label.hasRightToLeft || labels.all Label.runsOneWay)
  return ['.'].intercalate (labels.map Label.written)

end DutyRelay.Url.Domain
