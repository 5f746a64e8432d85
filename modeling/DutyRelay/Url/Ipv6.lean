import DutyRelay.Text

/-!
# IPv6 addresses

Eight groups of up to four hexadecimal digits, with colons in between. Two colons in a row stand for
as many groups of zeros as are missing, at least one; the last two groups may be written as an IPv4
address. The written form leaves out the first of the longest rows of zeros.

## Contents
- `Ipv6`, `Ipv6.ofText?`.
- `Ipv6.zeroRun?`, `Ipv6.text`.
-/

namespace DutyRelay

/-- An IPv6 address: its eight groups. -/
structure Ipv6 where
  groups : Vector UInt16 8
deriving DecidableEq, Repr

namespace Ipv6

/-- The address with these groups, if there are eight. -/
def ofGroups? (groups : List Nat) : Option Ipv6 :=
  if h : groups.length = 8 then some ⟨⟨(groups.map UInt16.ofNat).toArray, by simpa using h⟩⟩ else none

/-! ## Reading -/

/-- A group: one to four digits. -/
def group? (digits : List Char) : Option Nat :=
  if digits = [] ∨ 4 < digits.length then none else Text.numeral? 16 digits

/-- A decimal number below 256 without leading zeros. -/
def octet? (digits : List Char) : Option Nat :=
  if digits = [] ∨ 3 < digits.length ∨ (digits.head? = some '0' ∧ digits ≠ ['0']) then none
  else (Text.numeral? 10 digits).filter (· < 0x100)

/-- The last two groups, written as four decimal numbers. -/
def dotted? (text : List Char) : Option (List Nat) := do
  match ← (Text.pieces (· = '.') text).mapM octet? with
  | [a, b, c, d] => some [0x100 * a + b, 0x100 * c + d]
  | _ => none

/-- Groups with colons in between, of which the last two may be dotted. -/
def groups? : List (List Char) → Option (List Nat)
  | [] => some []
  | [last] => if last.contains '.' then dotted? last else (group? last).map ([·])
  | digits :: rest => do return (← group? digits) :: (← groups? rest)

/-- Groups on one side of a gap, where there may be none. -/
def side? (text : List Char) : Option (List Nat) :=
  if text = [] then some [] else groups? (Text.pieces (· = ':') text)

/-- The text in front of the first two colons in a row, and the text behind them. -/
def splitGap? : List Char → Option (List Char × List Char)
  | [] => none
  | ':' :: ':' :: rest => some ([], rest)
  | c :: rest => (splitGap? rest).map fun (before, behind) => (c :: before, behind)

/-- Reads an address. Nothing dotted stands in front of a gap. -/
def ofText? (text : List Char) : Option Ipv6 := do
  match splitGap? text with
  | none => ofGroups? (← side? text)
  | some (before, behind) =>
    guard (!before.contains '.')
    let left ← side? before
    let right ← side? behind
    guard (left.length + right.length < 8)
    ofGroups? (left ++ List.replicate (8 - (left.length + right.length)) 0 ++ right)

/-! ## Written form -/

/-- The number of zeros that a list begins with. -/
def leadingZeros (groups : List Nat) : Nat := (groups.takeWhile (· = 0)).length

/-- The first of the longest rows of two or more zeros: where it begins, and its length. -/
def zeroRun? (groups : List Nat) : Option (Nat × Nat) :=
  (List.range groups.length).foldl
    (fun best place =>
      let length := leadingZeros (groups.drop place)
      if 2 ≤ length && best.all (·.2 < length) then some (place, length) else best)
    none

/-- Groups with colons in between. -/
def groupsText (groups : List Nat) : String :=
  ":".intercalate (groups.map fun group => String.ofList (Nat.toDigits 16 group))

/-- The written form, without the brackets around it. -/
def text (address : Ipv6) : String :=
  let groups := address.groups.toList.map UInt16.toNat
  match zeroRun? groups with
  | none => groupsText groups
  | some (place, length) =>
    groupsText (groups.take place) ++ "::" ++ groupsText (groups.drop (place + length))

end Ipv6
end DutyRelay
