import DutyRelay.Unicode.Runs

/-!
# Writing directions

Letters are written from left to right or from right to left, numbers and signs go along with the
letters around them. The direction class says which of these a character does.

## Contents
- `Direction`, `direction`.
- `Direction.runs`: the table behind them.
-/

namespace DutyRelay.Unicode

/-- How a character takes part in the direction of a line. -/
inductive Direction where
  | leftToRight
  | rightToLeft
  /-- Right to left, in the manner of Arabic letters. -/
  | arabicLetter
  | arabicNumber
  | europeanNumber
  /-- A sign between the parts of a number, such as plus and minus. -/
  | numberSeparator
  /-- A sign at an end of a number, such as that of a currency. -/
  | numberTerminator
  | commonSeparator
  | neutral
  /-- Does not appear at all. -/
  | boundaryNeutral
  /-- A mark that takes the direction of its letter. -/
  | nonspacingMark
  /-- Blanks, ends of paragraphs, and signs that set the direction themselves. -/
  | control
deriving DecidableEq, Repr

namespace Direction

/-! ## The table -/

/-- Runs of one direction class. Code points without a character belong to the run in front of
them. -/
def text : String :=
  "n9 z5 ne z5 o2 t3 o5 s1 c1 s1 c2 ea c1 o6 l1a o6 l1a o4 n6 z1 n1a c1 o1 t4 o4 l1 o2 n1 o2 t2 e2
    o1 l1 o3 e1 l1 o5 l17 o1 l1f o1 l1c1 o2 l7 oe l2 oe l5 o9 l1 o11 m70 l4 o2 l8 o1 l5 o2 l1 o1 l6e
    o1 l8c m7 l100 o5 t2 m2d r1 m1 r1 m2 r1 m2 r1 m9 r30 b6 o2 a1 t2 a1 c1 a1 o2 mb a30 m15 ba t1 b2
    a3 m1 a65 m7 b1 o1 m6 a2 m2 o1 m4 a2 ea a17 m1 a1e m1d a59 mb af r2b m9 r2 o4 r3 m1 r18 m4 r1 m9
    r1 m3 r1 m7 r29 m5 r2 a30 b7 m9 a2a m18 b1 m20 l37 m1 l1 m1 l4 m8 l4 m1 l3 m7 la m2 l1d m1 l3a
    m1 l4 m6 l6 m1 l14 m4 lc t2 l7 t1 l2 m5 l39 m2 l3 m18 l17 m2 l3 m1 lb m2 l39 m1 l4 m8 l4 m3 l12
    m4 lb t8 l1 m8 l3a m1 l2 m1 l1 m6 l6 ma lb m4 l1c m1 l3d m1 lc m3 l23 o6 t1 o6 m1 l3 m1 l37 m1
    l1 m3 l5 m12 la m4 l12 o7 l2 m1 l3a m1 lf m9 ld m4 l1a m2 l39 m2 l4 m5 l7 m1 l14 m4 l1b m1 l48
    m5 l3 m6 l59 m1 l2 mb t1 l7 m8 l62 m1 l2 m9 lb m8 l48 m2 l1b m1 l1 m1 l1 m1 o4 l33 me l1 m5 l1
    m2 l5 m31 l8 m1 l66 m4 l1 m6 l1 m2 l2 m2 l19 m2 l4 m3 l10 m4 ld m1 l2 m2 l6 m1 lf m1 l2bf m3 l30
    o10 l60 o1 l27f z1 l1a o5 l72 m3 l1d m2 l1e me l12 me l34 m2 l1 m7 l8 m1 l2 mb l7 t1 l1 m3 l10
    o1b m3 n1 m1 l75 m2 l22 m1 l76 m3 l4 m2 l9 m1 l6 m7 o6 l98 o22 l17 m2 l2 m3 l38 m1 l1 m9 l1 m1
    l2 m8 l6 md l30 m54 l30 m1 l1 m5 l1 m1 l5 m1 l28 m9 lc m2 l20 m4 l2 m2 l1 m3 l38 m1 l1 m2 l3 m1
    l1 m3 l3a m8 l2 m5 l95 m3 l1 md l1 m7 l4 m1 l6 m1 l3 m2 lc6 m40 l1bd o1 l1 o3 lb o3 ld o3 ld o5
    lb o3 zb n3 l1 r1 o18 z7 c1 t5 of c1 o1a z1 n6 z4 n6 e1 l3 e6 s2 o3 l1 ea s2 o4 l10 t30 m30 o2
    l1 o4 l1 o2 la o1 l1 o3 l5 o6 l1 o1 l1 o1 l1 o1 l4 t1 lb o2 l4 o5 l5 o4 l2 o10 l29 o89 s1 t1
    o122 l45 o1a l1 of2 e14 l4e o1c2 l1 o153 l100 o300 le5 o6 l4 m3 l7 o7 l7f m1 l60 m20 o200 z1 o4
    l3 o19 l9 m4 l2 o1 l5 o2 l5 o4 l58 m2 o2 l3 o1 l5a o1 lc4 o30 l2d o3 l30 o10 l1c o3 l32 of lc o4
    la7 o4 l63 o2 l1f o1 l19c0 o40 l5690 o40 l13d o3 l5f m4 o1 ma o2 l1e m2 l50 m2 le o22 l66 o1 l79
    m1 l3 m1 l4 m1 l19 m2 l1 o4 m4 l8 t8 l34 oc l44 ma l12 m12 ld m1 l26 m8 l19 mb l2e m3 l30 m1 l2
    m4 l2 m2 l27 m1 l43 m6 l2 m2 l2 mb l3 m1 l8 m1 l2f m1 l33 m1 l1 m3 l2 m2 l5 m2 l1 m1 l2a m2 l8
    mb l69 o6 l75 m1 l2 m1 l4 m3 l4f2d r1 m1 ra s1 r26 a73 o10 a16b o12 a40 o2 a36 o28 ad o3 m10 o10
    m10 o20 c1 o1 c2 o1 c1 o9 t1 o2 s2 o5 t2 o5 a8f n2 o2 t3 o5 s1 c1 s1 c2 ea c1 o6 l1a o6 l1a ob
    l7a t2 o3 t3 o18 l101 o1 l3e o4d l3 o40 l2d m83 l60 m1 e1f l76 ma l480 r11f o1 re1 mf r28 m8 ra5
    m6 r4e o7 r1c0 a24 mc b1a r1f m5 o1 rf1 b20 r2b m2 r15 ae o2a m6 r30 a16 mb a1f r12 m4 r7a l1 m1
    l36 mf lb o14 la m1 l2 m2 la m3 l31 m4 l2 m2 l7 mb l33 m3 l24 m5 l1 m9 l3d m1 lc m2 l34 m9 la m4
    l2 m1 l5f m3 l2 m1 l1 m2 l6 m1 l2 m3f l5f m1 l3 md l10 m2 l39 m2 l3 m1 l25 m1a l3b m7 lc m1 l1
    m1 l1 m1 le m1f l38 m8 l2 m3 l1 m1 l17 m1 l54 m6 l1 m1 l4 m2 l1 m2 lee m6 l4 m2 l1 m2 l1b m24
    l33 m8 l2 m1 l1 m2 l1f o20 l2b m1 l1 m1 l2 m6 l1 m1 l65 m3 l2 m4 l1 m9 lff m9 l1 m2 l100 m2 l1
    m1 l4 m1 l90 m8 l4 m1 l20 m6 l2 m2 l28 m6 l2 m4 l8 m9 l1 m6 l2 m3 l2e md l1 m2 lc6 m1 l1 m3 l1
    m1 lc9 me l54 m17 l1 m7 l1 m2 l1 m4b l31 m15 l1 m9 l40 m3 l2 m1 l1 m1 l15b m2 lb m2 l34 m8 l2 m1
    l1 m1 l17 m56 l25 o8 t4 o1e l1441 m1 l6 m19 l2cbe mc l3 m3 l9c0 m5 l3b m7 l418 m1 l3f m4 l4f o1
    l1 mc l4cad m2 l1 nf60 of0 ea o206 m50 l217 m3 l9 n8 m8 l2 m7 l1e m4 l3b o59 m3 o7b l40 o60 l37b
    o1 l39 o1 l39 o1 l39 o1 l39 o1 la e32 l200 m37 l4 m32 l8 m1 le m1 l16 m465 l100 m30 l5f m71 l30
    m7 l177 m12 l2c m4 lf t1d1 l1c m4 lfe m2 lf3 m1 l2 m1 l7 m2 l5 m9 l102 rd0 m30 r44 m7 r326 a27f
    o210 eb o5 l1f o1 l3a o6 l3d o39 l7a o990 ea o406 lc0001 nff mff00 l20000"

/-- The class that a letter of the table stands for. -/
def ofKind (kind : Char) : Direction :=
  if kind = 'l' then leftToRight
  else if kind = 'r' then rightToLeft
  else if kind = 'a' then arabicLetter
  else if kind = 'b' then arabicNumber
  else if kind = 'e' then europeanNumber
  else if kind = 's' then numberSeparator
  else if kind = 't' then numberTerminator
  else if kind = 'c' then commonSeparator
  else if kind = 'o' then neutral
  else if kind = 'n' then boundaryNeutral
  else if kind = 'm' then nonspacingMark
  else control

/-- The direction class of the code points of a run. -/
def runs : Runs Direction :=
  Runs.ofText (fun entry => (entry.numbers.headD 0, ofKind entry.kind)) text

end Direction

/-- The direction class of a character. -/
def direction (c : Char) : Direction := (Direction.runs.value? c.toNat).getD .leftToRight

end DutyRelay.Unicode
