import DutyRelay.Unicode.Runs

/-!
# Joining letters

In some scripts letters are written differently where they touch a neighbour. The joining type says
on which sides a letter touches, and which characters stand between two letters without parting them.

## Contents
- `Joining`, `joining`.
- `Joining.runs`: the table behind them.
-/

namespace DutyRelay.Unicode

/-- On which sides a character joins its neighbours. -/
inductive Joining where
  | none
  /-- Joins on both sides by being drawn longer. -/
  | causing
  | dual
  | left
  | right
  /-- Does not part the letters around it. -/
  | transparent
deriving DecidableEq, Repr

namespace Joining

/-! ## The table -/

/-- Runs of one joining type. -/
def text : String :=
  "nad t1 n252 t70 n113 t7 n107 t2d n1 t1 n1 t2 n1 t2 n1 t1 n48 tb n1 t1 n3 d1 n1 r4 d1 r1 d1 r1 d5
    r4 dd c1 d7 r1 d2 t15 ne d2 t1 r3 n1 r3 d10 r12 d26 r1 d2 r9 d1 r1 d1 r1 d2 r2 n1 r1 t7 n2 t6 n2
    t2 n1 t4 r2 na d3 n2 d1 nf t1 r1 t1 d3 r5 d4 r1 d9 r1 d1 r1 d1 r1 d2 r1 t1b n2 r1 db r3 df r2 d4
    r1 d1 r2 d3 r2 d6 n26 tb n19 d21 t9 n6 c1 n2 t1 n18 t4 n1 t9 n1 t3 n1 t5 n12 r1 d5 r2 d1 r1 da
    r1 d1 r3 t3 n4 d1 n1 d4 n1 r1 d1 r2 n5 r13 c3 d1 n2 d5 r1 d1 n7 t9 da r3 n1 r1 d2 r2 d6 r1 df n1
    t18 n1 t20 n37 t1 n1 t1 n4 t8 n4 t1 n3 t7 na t2 n1d t1 n3a t1 n4 t4 n8 t1 n14 t2 n1a t1 n2 t2
    n39 t1 n4 t2 n4 t2 n2 t3 n3 t1 n1e t2 n3 t1 nb t2 n39 t1 n4 t5 n1 t2 n4 t1 n14 t2 n16 t6 n1 t1
    n3a t1 n2 t1 n1 t4 n8 t1 n7 t2 nb t2 n1e t1 n3d t1 nc t1 n32 t1 n3 t1 n37 t1 n1 t3 n5 t3 n1 t4
    n7 t2 nb t2 n1d t1 n3a t1 n2 t1 n6 t1 n5 t2 n14 t2 n1c t2 n39 t2 n4 t4 n8 t1 n14 t2 n1d t1 n48
    t1 n7 t3 n1 t1 n5a t1 n2 t7 nc t8 n62 t1 n2 t9 nb t7 n49 t2 n1b t1 n1 t1 n1 t1 n37 te n1 t5 n1
    t2 n5 tb n1 t24 n9 t1 n66 t4 n1 t6 n1 t2 n2 t2 n19 t2 n4 t3 n10 t4 nd t1 n2 t2 n6 t1 nf t1 n2bf
    t3 n3b2 t3 n1d t2 n1e t2 n1e t2 n40 t2 n1 t7 n8 t1 n2 tb n9 t1 n29 d1 n2 c1 t3 n1 t1 n10 d59 nc
    t2 d22 t1 d1 n75 t3 n4 t2 n9 t1 n6 t3 ndb t2 n2 t1 n3a t1 n1 t7 n1 t1 n1 t1 n2 t8 n6 ta n2 t1
    n30 t2e n2 tc n14 t4 n30 t1 n1 t5 n1 t1 n5 t1 n28 t9 nc t2 n20 t4 n2 t2 n1 t3 n38 t1 n1 t2 n3 t1
    n1 t3 n3a t8 n2 t2 n98 t3 n1 td n1 t7 n4 t1 n6 t1 n3 t2 nc6 t40 n20b t1 n1 c1 t2 n1a t5 n31 t5
    n5 t6 n60 t21 nbfe t3 n8d t1 n60 t20 n22a t4 n6b t2 n75d4 t4 n1 ta n20 t2 n50 t2 n110 t1 n3 t1
    n4 t1 n19 t2 n5 t1 n13 d32 l1 n51 t2 n1a t12 nd t1 n26 t8 n19 tb n2e t3 n30 t1 n2 t4 n2 t2 n27
    t1 n43 t6 n2 t2 n2 t2 nc t1 n8 t1 n2f t1 n33 t1 n1 t3 n2 t2 n5 t2 n1 t1 n2a t2 n8 t1 nee t1 n2
    t1 n4 t1 n4f30 t1 n2e1 t10 n10 t10 ncf t1 nf9 t3 n201 t1 ne2 t1 n95 t5 n686 t3 n1 t2 n5 t4 n28
    t3 n4 t1 n80 d5 r1 n1 r1 n1 r2 n2 l1 r5 d4 l1 d5 r1 d3 r1 n2 r1 t2 n4 d4 r1 n90 d1 r1 d1 r3 d3
    r1 d2 r1 d1 r2 d1 r1 n17 r4 d2 n151 l1 d21 r1 d1 t4 n41 t5 n13d t2 n15 r1 d2 n1 d2 n32 t6 n30 d3
    r1 d11 n1 tb d3 r1 n1b d4 r2 dc t4 n2a d1 n1 d2 r3 n1 d1 r2 d2 r1 d2 n1 d1 r2 d1 n4 r1 d1 l1 n35
    t1 n36 tf n29 t1 n2 t2 na t3 n31 t4 n2 t2 n7 t1 n3d t3 n24 t5 n1 t8 n3e t1 nc t2 n34 t9 na t4 n2
    t1 n5f t3 n2 t1 n1 t2 n6 t1 n2 t1 n9d t1 n3 t8 n15 t2 n39 t2 n3 t1 n25 t7 n3 t5 n46 t6 nd t1 n1
    t1 n1 t1 ne t2 n55 t8 n2 t3 n1 t1 n17 t1 n54 t6 n1 t1 n4 t2 n1 t2 nee t4 n6 t2 n1 t2 n1b t2 n55
    t8 n2 t1 n1 t2 n6a t1 n1 t1 n2 t6 n1 t1 n65 t1 n1 t1 n2 t4 n1 t5 n103 t9 n1 t2 n100 t2 n1 t1 n4
    t1 n90 t4 n2 t2 n4 t1 n20 ta n28 t6 n2 t4 n8 t1 n9 t6 n2 t3 n2e td n1 t2 nc6 t1 n1 t3 n1 t1 nc9
    t7 n1 t6 n1 t1 n52 t16 n2 t7 n1 t2 n1 t2 n7a t6 n3 t1 n1 t2 n1 t7 n1 t1 n48 t2 n3 t1 n1 t1 n15b
    t2 nb t2 n34 t5 n5 t1 n1 t1 n17 t1 n14d5 t11 n6 tf n2cc8 tc n3 t3 n9c0 t5 n3b t7 n418 t1 n3f t4
    n51 t1 n4cb8 t2 n1 t4 n125c t2e n2 t17 n220 t3 n9 t10 n2 t7 n1e t4 n94 t3 n7bb t37 n4 t32 n8 t1
    ne t1 n16 t5 n1 tf n550 t7 n1 t11 n2 t7 n1 t2 n1 t5 n64 t1 na0 t7 n177 t1 n3d t4 n1fc t4 nfe t2
    nf3 t1 n2 t1 n7 t2 n5 t1 n1da t7 n29 d44 t8 nc16b5 t1 n1e t60 n80 tf0 n2fe10"

/-- The type that a letter of the table stands for. -/
def ofKind (kind : Char) : Joining :=
  if kind = 'c' then causing
  else if kind = 'd' then dual
  else if kind = 'l' then left
  else if kind = 'r' then right
  else if kind = 't' then transparent
  else none

/-- The joining type of the code points of a run. -/
def runs : Runs Joining :=
  Runs.ofText (fun entry => (entry.numbers.headD 0, ofKind entry.kind)) text

end Joining

/-- The joining type of a character. -/
def joining (c : Char) : Joining := (Joining.runs.value? c.toNat).getD .none

end DutyRelay.Unicode
