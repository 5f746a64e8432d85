/-!
# Cutting text

Addresses and tables are read by cutting text at marks and by reading the digits in between. Text is
a list of characters here, since what is read is a few characters long and every step looks at the
next one only.

## Contents
- `Text.cut`, `Text.pieces`: text cut at the first mark, and at every mark.
- `Text.digitValue?`, `Text.numeral?`: digits in a base up to 36.
-/

namespace DutyRelay.Text

/-! ## Marks -/

/-- Cuts text in front of the first character of a kind. -/
def cut (isMark : Char → Bool) (text : List Char) : List Char × List Char :=
  (text.takeWhile fun c => !isMark c, text.dropWhile fun c => !isMark c)

theorem cut_append (isMark : Char → Bool) (text : List Char) :
    (cut isMark text).1 ++ (cut isMark text).2 = text := List.takeWhile_append_dropWhile

/-- The pieces between the characters of a kind; there is one piece more than there are marks. -/
def pieces (isMark : Char → Bool) (text : List Char) : List (List Char) :=
  text.foldr
    (fun c rest =>
      if isMark c then [] :: rest
      else match rest with
        | piece :: others => (c :: piece) :: others
        | [] => [[c]])
    [[]]

/-! ## Digits -/

/-- The value of a digit or letter: the letters follow the ten digits, in either case. -/
def digitValue? (c : Char) : Option Nat :=
  if c.isDigit then some (c.toNat - 48)
  else if c.isLower then some (c.toNat - 87)
  else if c.isUpper then some (c.toNat - 55)
  else none

/-- The number that digits stand for in a base; no digits are zero. -/
def numeral? (base : Nat) (digits : List Char) : Option Nat :=
  digits.foldlM
    (fun n c => do
      let d ← digitValue? c
      if d < base then some (base * n + d) else none)
    0

end DutyRelay.Text
