import DutyRelay.Url.Percent

/-!
# Paths of addresses

A path is a row of segments with a slash in front of each; a backslash counts as a slash. Segments
of one dot stand for the segment they are in, segments of two dots for the one above. What is above
a drive letter, such as `C:`, is that drive letter.

## Contents
- `Path.resolve`: dot segments taken out.
- `Path.ofText`: the normal form of a path.
-/

namespace DutyRelay.Url.Path

/-- A slash of either kind. -/
def isSlash (c : Char) : Bool := c = '/' || c = '\x5c'

/-! ## Segments -/

/-- A segment that stands for the one it is in, also with the dot written by number. -/
def isDot (segment : List Char) : Bool := segment.map Char.toLower ∈ [".", "%2e"].map String.toList

/-- A segment that stands for the one above. -/
def isDoubleDot (segment : List Char) : Bool :=
  segment.map Char.toLower ∈ ["..", ".%2e", "%2e.", "%2e%2e"].map String.toList

/-- A segment that names a drive: a letter, and a colon or a bar. -/
def isDrive : List Char → Bool
  | [letter, mark] => letter.isAlpha && (mark = ':' || mark = '|')
  | _ => false

/-- The segments above the last one, which comes first. Nothing is above a drive. -/
def parent : List (List Char) → List (List Char)
  | [] => []
  | last :: above => if isDrive last then last :: above else above

/-- The segments without dot segments, the last one first, on top of those in `done`. A dot segment
at the end leaves an empty one. -/
def resolve (done : List (List Char)) : List (List Char) → List (List Char)
  | [] => done
  | [last] =>
    if isDoubleDot last then [] :: parent done
    else if isDot last then [] :: done
    else last :: done
  | segment :: rest =>
    if isDoubleDot segment then resolve (parent done) rest
    else if isDot segment then resolve done rest
    else resolve (segment :: done) rest

/-! ## The normal form -/

/-- The normal form of a path. -/
def ofText (text : List Char) : String :=
  let inner := match text with
    | c :: rest => if isSlash c then rest else c :: rest
    | [] => []
  let segments := (resolve [] (Text.pieces isSlash inner)).reverse
  String.ofList (segments.flatMap fun segment => '/' :: Percent.encode Percent.inPath segment)

end DutyRelay.Url.Path
