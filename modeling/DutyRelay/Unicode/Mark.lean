import DutyRelay.Unicode.Runs

/-!
# Combining marks

Marks are characters that belong to the letter in front of them: accents, vowel signs, enclosing
circles. They are the general category M.

## Contents
- `isMark`.
- `Mark.runs`: the table behind it.
-/

namespace DutyRelay.Unicode

namespace Mark

/-! ## The table -/

/-- Runs of marks (`m`) and of other characters (`n`). -/
def text : String :=
  "n300 m70 n113 m7 n107 m2d n1 m1 n1 m2 n1 m2 n1 m1 n48 mb n30 m15 n10 m1 n65 m7 n2 m6 n2 m2 n1 m4
    n23 m1 n1e m1b n5b mb n3a m9 n9 m1 n18 m4 n1 m9 n1 m3 n1 m5 n2b m3 n3b m9 n2a m18 n1 m21 n36 m3
    n1 m12 n1 m7 na m2 n1d m3 n38 m1 n1 m7 n2 m2 n2 m3 n9 m1 na m2 n1a m1 n2 m3 n38 m1 n1 m5 n4 m2
    n2 m3 n3 m1 n1e m2 n3 m1 nb m3 n38 m1 n1 m8 n1 m3 n1 m3 n14 m2 n16 m6 n1 m3 n38 m1 n1 m7 n2 m2
    n2 m3 n7 m3 na m2 n1e m1 n3b m5 n3 m3 n1 m4 n9 m1 n28 m5 n37 m1 n1 m7 n1 m3 n1 m4 n7 m2 nb m2
    n1d m3 n38 m1 n1 m7 n1 m3 n1 m4 n7 m2 nb m2 nf m1 nc m4 n37 m2 n1 m7 n1 m3 n1 m4 n9 m1 na m2 n1d
    m3 n46 m1 n4 m6 n1 m1 n1 m8 n12 m2 n3d m1 n2 m7 nc m8 n62 m1 n2 m9 nb m7 n49 m2 n1b m1 n1 m1 n1
    m1 n4 m2 n31 m14 n1 m2 n5 mb n1 m24 n9 m1 n64 m14 n17 m4 n4 m3 n1 m3 n2 m7 n3 m4 nd mc n1 m1 na
    m4 n2bf m3 n3b2 m4 n1c m3 n1d m2 n1e m2 n40 m20 n9 m1 n2d m3 n1 m1 n75 m2 n22 m1 n76 mc n4 mc
    ndb m5 n39 ma n1 m1d n2 m1 n30 m2e n2 mc n14 m5 n2f m11 n26 m9 nc m3 n1e md n38 me n30 m14 n98
    m3 n1 m15 n4 m1 n6 m1 n2 m3 nc6 m40 n2d0 m21 nbfe m3 n8d m1 n60 m20 n22a m6 n69 m2 n75d4 m4 n1
    ma n20 m2 n50 m2 n110 m1 n3 m1 n4 m1 n17 m5 n4 m1 n53 m2 n32 m12 n1a m12 nd m1 n26 m8 n19 md n2c
    m4 n2f me n24 m1 n43 me nc m1 n8 m2 n2d m3 n32 m1 n1 m3 n2 m2 n5 m2 n1 m1 n29 m5 n5 m2 nec m8 n1
    m2 n4f30 m1 n2e1 m10 n10 m10 n3cd m1 ne2 m1 n95 m5 n686 m3 n1 m2 n5 m4 n28 m3 n4 m1 na5 m2 n23d
    m4 n41 m5 n13d m2 n4d m6 n46 mb n31 m4 n7a m3 n35 mf n29 m1 n2 m2 na m4 n2d mb n7 m1 n3d m3 n24
    me n10 m2 n2c m1 nc m3 n30 me n8 m4 n1 m2 n5c mc n6 m1 n2 m1 n9d mc n15 m4 n37 m2 n1 m7 n2 m2 n2
    m3 n9 m1 na m2 n2 m7 n3 m5 n43 m9 n1 m1 n2 m1 n1 m4 n1 m5 n1 m1 ne m2 n52 m12 n17 m1 n51 m14 neb
    m7 n2 m9 n1b m2 n52 m11 n6a md n65 mf n100 mf nf5 m6 n1 m2 n2 m4 n1 m1 n1 m2 n8d m7 n2 m7 n3 m1
    n1c ma n28 m7 n1 m4 n8 m1 n9 mb n2e m10 nc6 m8 nc7 m8 n1 m8 n52 m16 n1 me n7a m6 n3 m1 n1 m2 n1
    m7 n1 m1 n42 m5 n1 m2 n1 m5 n15b m4 n9 m2 n1 m1 n30 m7 n3 m5 n17 m1 n14e5 m1 n6 mf n2cc8 m12
    n9c0 m5 n3b m7 n418 m1 n1 m37 n7 m4 n51 m1 nb m2 n4cab m2 n1261 m2e n2 m17 n21e m5 n3 m6 n8 m8
    n2 m7 n1e m4 n94 m3 n7bb m37 n4 m32 n8 m1 ne m1 n16 m5 n1 mf n550 m7 n1 m11 n2 m7 n1 m2 n1 m5
    n64 m1 na0 m7 n177 m1 n3d m4 n1fc m4 nfe m2 nf3 m1 n2 m1 n7 m2 n5 m1 n1da m7 n6d m7 nc17b5 mf0
    n2fe10"

/-- Whether the code points of a run are marks. -/
def runs : Runs Bool := Runs.ofText (fun entry => (entry.numbers.headD 0, entry.kind = 'm')) text

end Mark

/-- Whether a character is a combining mark. -/
def isMark (c : Char) : Bool := (Mark.runs.value? c.toNat).getD false

end DutyRelay.Unicode
