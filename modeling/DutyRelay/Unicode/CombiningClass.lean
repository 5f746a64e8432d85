import DutyRelay.Unicode.Runs

/-!
# Combining classes

Marks of different classes attach to different places of a letter, so their order does not matter;
marks of one class stack up in the order in which they are written. Class zero holds what nothing is
moved across.

## Contents
- `combiningClass`, `viramaClass`.
- `CombiningClass.runs`: the table behind them.
-/

namespace DutyRelay.Unicode

namespace CombiningClass

/-! ## The table -/

/-- Runs of class zero (`n`) and of other classes (`c`), with the class behind the length. -/
def text : String :=
  "n300 c15.e6 c1.e8 c4.dc c1.e8 c1.d8 c5.dc c2.ca c4.dc c2.ca cb.dc c5.1 c4.dc c8.e6 c1.f0 c1.e6
    c3.dc c3.e6 c2.dc n1 c3.e6 c4.dc c1.e6 c1.e8 c2.dc c1.e6 c1.e9 c2.ea c1.e9 c2.ea c1.e9 cd.e6
    n113 c5.e6 n109 c1.dc c4.e6 c1.dc c3.e6 c1.de c1.dc c6.e6 c6.dc c2.e6 c1.dc c2.e6 c1.de c1.e4
    c1.e6 c1.a c1.b c1.c c1.d c1.e c1.f c1.10 c1.11 c1.12 c2.13 c1.14 c1.15 c1.16 n1 c1.17 n1 c1.18
    c1.19 n1 c1.e6 c1.dc n1 c1.12 n48 c8.e6 c1.1e c1.1f c1.20 n30 c1.1b c1.1c c1.1d c1.1e c1.1f
    c1.20 c1.21 c1.22 c2.e6 c2.dc c5.e6 c1.dc c2.e6 c1.dc n10 c1.23 n65 c7.e6 n2 c4.e6 c1.dc c1.e6
    n2 c2.e6 n1 c1.dc c2.e6 c1.dc n23 c1.24 n1e c1.e6 c1.dc c2.e6 c1.dc c2.e6 c3.dc c1.e6 c2.dc
    c1.e6 c1.dc c3.e6 c1.dc c1.e6 c1.dc c1.e6 c1.dc c1.e6 c1.dc c2.e6 na0 c7.e6 c1.dc c1.e6 n9 c1.dc
    n18 c4.e6 n1 c9.e6 n1 c3.e6 n1 c5.e6 n2b c3.dc n3b c2.e6 c3.dc c4.e6 n2a c5.e6 c5.dc ce.e6 n1
    c1.dc c2.e6 c1.dc c2.e6 c1.dc c3.e6 c3.dc c1.1b c1.1c c1.1d c3.e6 c1.dc c2.e6 c2.dc c5.e6 n3c
    c1.7 n10 c1.9 n3 c1.e6 c1.dc c2.e6 n67 c1.7 n10 c1.9 n30 c1.e6 n3d c1.7 n10 c1.9 n6e c1.7 n10
    c1.9 n6e c1.7 n10 c1.9 n7f c1.9 n6e c1.7 n10 c1.9 n7 c1.54 c1.5b n65 c1.7 n10 c1.9 n6d c2.9 n10
    c1.9 n7c c1.9 n6d c2.67 c1.9 nd c4.6b n6c c2.76 c1.9 nd c4.7a n4c c2.dc n1b c1.dc n1 c1.dc n1
    c1.d8 n37 c1.81 c1.82 n1 c1.84 n5 c4.82 n2 c1.82 n1 c2.e6 c1.9 n1 c2.e6 n3e c1.dc n70 c1.7 n1
    c2.9 n52 c1.dc n2cf c3.e6 n3b4 c2.9 n1e c1.9 n9d c1.9 na c1.e6 ncb c1.e4 n8f c1.de c1.e6 c1.dc
    ndb c1.e6 c1.dc n47 c1.9 n14 c8.e6 n2 c1.dc n30 c5.e6 c6.dc c2.e6 c1.dc n1 c2.dc c2.e6 c2.dc
    c5.e6 c1.dc c12.e6 c1.dc n2 c6.e6 c1.dc c4.e6 c1.ea n48 c1.7 nf c1.9 n26 c1.e6 c1.dc c7.e6 n36
    c2.9 n3a c1.7 nb c2.9 n43 c1.7 n98 c3.e6 n1 c1.1 c5.dc c2.e6 c4.dc c1.e6 n1 c7.1 n4 c1.dc n6
    c1.e6 n3 c2.e6 nc6 c2.e6 c1.dc c7.e6 c1.dc c2.e6 c1.ea c1.d6 c1.dc c1.ca c25.e6 c1.e8 c2.e4
    c1.dc c1.da c1.e6 c1.e9 c1.dc c1.e6 c1.dc n2d0 c2.e6 c2.1 c4.e6 c3.1 c2.e6 n4 c1.e6 n3 c2.1
    c1.e6 c1.dc c1.e6 c2.1 c4.dc c1.e6 nbfe c3.e6 n8d c1.9 n60 c20.e6 n22a c1.da c1.e4 c1.e8 c1.de
    c2.e0 n69 c2.8 n75d4 c1.e6 n4 ca.e6 n20 c2.e6 n50 c2.e6 n114 c1.9 n25 c1.9 n97 c1.9 n1b c12.e6
    n39 c3.dc n25 c1.9 n5f c1.7 nc c1.9 nef c1.e6 n1 c2.e6 c1.dc n2 c2.e6 n5 c2.e6 n1 c1.e6 n34 c1.9
    nf6 c1.9 n4f30 c1.1a n301 c7.e6 c7.dc c2.e6 n3cd c1.dc ne2 c1.dc n95 c5.e6 n692 c1.dc n1 c1.e6
    n28 c1.e6 c1.1 c1.dc n4 c1.9 na5 c1.e6 c1.dc n23d c4.e6 n41 c5.e6 n13d c2.e6 n4d c2.dc n1 c3.dc
    n46 c2.dc c3.e6 c1.dc c1.e6 c4.dc n31 c1.e6 c1.dc c1.e6 c1.dc nc0 c1.9 n29 c1.9 ne c1.9 n39 c1.9
    c1.7 n45 c3.e6 n30 c2.9 n3e c1.7 n4c c1.9 n9 c1.7 n6a c1.9 c1.7 nb2 c1.7 c1.9 n50 c2.7 n10 c1.9
    n18 c7.e6 n3 c5.e6 n59 c3.9 n71 c1.9 n3 c1.7 n17 c1.e6 n63 c1.9 c1.7 nfb c1.9 c1.7 n7e c1.9 n76
    c1.9 c1.7 n73 c1.9 n10d c1.9 c1.7 n102 c2.9 n4 c1.7 n9c c1.9 n53 c1.9 n12 c1.9 n51 c1.9 n1a5
    c1.9 n102 c1.7 n1 c2.9 n51 c1.9 n1a9 c2.9 n41ec c1.9 n9c0 c5.1 n3b c7.e6 n4b9 c2.6 n4cac c1.1
    n14c6 c2.d8 c3.1 n3 c1.e2 c5.d8 n8 c8.dc n2 c5.e6 c2.dc n1e c4.e6 n94 c3.e6 ndbb c7.e6 n1 c11.e6
    n2 c7.e6 n1 c2.e6 n1 c5.e6 n64 c1.e6 na0 c7.e6 n177 c1.e6 n3d c4.e6 n1fc c2.e8 c1.dc c1.e6 nfe
    c1.e6 c1.dc nf3 c1.e6 n2 c1.e6 n7 c2.e6 n5 c1.e6 n1da c7.dc n6d c6.e6 c1.7 nf16b5"

/-- The class of the code points of a run. -/
def runs : Runs Nat :=
  Runs.ofText (fun entry => (entry.numbers.headD 0, (entry.numbers[1]?).getD 0)) text

end CombiningClass

/-- The combining class of a character. -/
def combiningClass (c : Char) : Nat := (CombiningClass.runs.value? c.toNat).getD 0

/-- The class of the signs that take the vowel off a consonant. -/
def viramaClass : Nat := 9

end DutyRelay.Unicode
