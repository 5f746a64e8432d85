import DutyRelay.Unicode.Runs
import Std.Data.HashMap

/-!
# Letters and their parts

Many letters with a mark can be written as one character or as two. A table says into what a
character falls apart; the parts may fall apart further. Most pairs can be put together again, some
are left apart. The syllables of the Korean script are put together from their letters by arithmetic.

## Contents
- `parts?`: the parts of a character.
- `decompose`: all parts of a text.
- `composite?`: the character that two others make.
- `Decomposition.rules`: the table behind them.
-/

namespace DutyRelay.Unicode

namespace Decomposition

/-! ## The table -/

/-- Runs of characters without parts (`n`); characters that are the same as another (`s`); characters
with two parts, which make it again (`p`) or not (`x`). -/
def text : String :=
  "nc0 p41.300 p41.301 p41.302 p41.303 p41.308 p41.30a n1 p43.327 p45.300 p45.301 p45.302 p45.308
    p49.300 p49.301 p49.302 p49.308 n1 p4e.303 p4f.300 p4f.301 p4f.302 p4f.303 p4f.308 n2 p55.300
    p55.301 p55.302 p55.308 p59.301 n2 p61.300 p61.301 p61.302 p61.303 p61.308 p61.30a n1 p63.327
    p65.300 p65.301 p65.302 p65.308 p69.300 p69.301 p69.302 p69.308 n1 p6e.303 p6f.300 p6f.301
    p6f.302 p6f.303 p6f.308 n2 p75.300 p75.301 p75.302 p75.308 p79.301 n1 p79.308 p41.304 p61.304
    p41.306 p61.306 p41.328 p61.328 p43.301 p63.301 p43.302 p63.302 p43.307 p63.307 p43.30c p63.30c
    p44.30c p64.30c n2 p45.304 p65.304 p45.306 p65.306 p45.307 p65.307 p45.328 p65.328 p45.30c
    p65.30c p47.302 p67.302 p47.306 p67.306 p47.307 p67.307 p47.327 p67.327 p48.302 p68.302 n2
    p49.303 p69.303 p49.304 p69.304 p49.306 p69.306 p49.328 p69.328 p49.307 n3 p4a.302 p6a.302
    p4b.327 p6b.327 n1 p4c.301 p6c.301 p4c.327 p6c.327 p4c.30c p6c.30c n4 p4e.301 p6e.301 p4e.327
    p6e.327 p4e.30c p6e.30c n3 p4f.304 p6f.304 p4f.306 p6f.306 p4f.30b p6f.30b n2 p52.301 p72.301
    p52.327 p72.327 p52.30c p72.30c p53.301 p73.301 p53.302 p73.302 p53.327 p73.327 p53.30c p73.30c
    p54.327 p74.327 p54.30c p74.30c n2 p55.303 p75.303 p55.304 p75.304 p55.306 p75.306 p55.30a
    p75.30a p55.30b p75.30b p55.328 p75.328 p57.302 p77.302 p59.302 p79.302 p59.308 p5a.301 p7a.301
    p5a.307 p7a.307 p5a.30c p7a.30c n21 p4f.31b p6f.31b nd p55.31b p75.31b n1c p41.30c p61.30c
    p49.30c p69.30c p4f.30c p6f.30c p55.30c p75.30c pdc.304 pfc.304 pdc.301 pfc.301 pdc.30c pfc.30c
    pdc.300 pfc.300 n1 pc4.304 pe4.304 p226.304 p227.304 pc6.304 pe6.304 n2 p47.30c p67.30c p4b.30c
    p6b.30c p4f.328 p6f.328 p1ea.304 p1eb.304 p1b7.30c p292.30c p6a.30c n3 p47.301 p67.301 n2
    p4e.300 p6e.300 pc5.301 pe5.301 pc6.301 pe6.301 pd8.301 pf8.301 p41.30f p61.30f p41.311 p61.311
    p45.30f p65.30f p45.311 p65.311 p49.30f p69.30f p49.311 p69.311 p4f.30f p6f.30f p4f.311 p6f.311
    p52.30f p72.30f p52.311 p72.311 p55.30f p75.30f p55.311 p75.311 p53.326 p73.326 p54.326 p74.326
    n2 p48.30c p68.30c n6 p41.307 p61.307 p45.327 p65.327 pd6.304 pf6.304 pd5.304 pf5.304 p4f.307
    p6f.307 p22e.304 p22f.304 p59.304 p79.304 n10c s300 s301 n1 s313 x308.301 n2f s2b9 n9 s3b n6
    pa8.301 p391.301 sb7 p395.301 p397.301 p399.301 n1 p39f.301 n1 p3a5.301 p3a9.301 p3ca.301 n19
    p399.308 p3a5.308 p3b1.301 p3b5.301 p3b7.301 p3b9.301 p3cb.301 n19 p3b9.308 p3c5.308 p3bf.301
    p3c5.301 p3c9.301 n4 p3d2.301 p3d2.308 n2b p415.300 p415.308 n1 p413.301 n3 p406.308 n4 p41a.301
    p418.300 p423.306 na p418.306 n1f p438.306 n16 p435.300 p435.308 n1 p433.301 n3 p456.308 n4
    p43a.301 p438.300 p443.306 n17 p474.30f p475.30f n49 p416.306 p436.306 nd p410.306 p430.306
    p410.308 p430.308 n2 p415.306 p435.306 n2 p4d8.308 p4d9.308 p416.308 p436.308 p417.308 p437.308
    n2 p418.304 p438.304 p418.308 p438.308 p41e.308 p43e.308 n2 p4e8.308 p4e9.308 p42d.308 p44d.308
    p423.304 p443.304 p423.308 p443.308 p423.30b p443.30b p427.308 p447.308 n2 p42b.308 p44b.308
    n128 p627.653 p627.654 p648.654 p627.655 p64a.654 n99 p6d5.654 n1 p6c1.654 n10 p6d2.654 n255
    p928.93c n7 p930.93c n2 p933.93c n23 x915.93c x916.93c x917.93c x91c.93c x921.93c x922.93c
    x92b.93c x92f.93c n6b p9c7.9be p9c7.9d7 nf x9a1.9bc x9a2.9bc n1 x9af.9bc n53 xa32.a3c n2
    xa38.a3c n22 xa16.a3c xa17.a3c xa1c.a3c n2 xa2b.a3c ne9 pb47.b56 n2 pb47.b3e pb47.b57 nf
    xb21.b3c xb22.b3c n36 pb92.bd7 n35 pbc6.bbe pbc7.bbe pbc6.bd7 n7b pc46.c56 n77 pcbf.cd5 n6
    pcc6.cd5 pcc6.cd6 n1 pcc6.cc2 pcca.cd5 n7e pd46.d3e pd47.d3e pd46.d57 n8d pdd9.dca n1 pdd9.dcf
    pddc.dca pdd9.ddf n164 xf42.fb7 n9 xf4c.fb7 n4 xf51.fb7 n4 xf56.fb7 n4 xf5b.fb7 nc xf40.fb5 n9
    xf71.f72 n1 xf71.f74 xfb2.f80 n1 xfb3.f80 n8 xf71.f80 n11 xf92.fb7 n9 xf9c.fb7 n4 xfa1.fb7 n4
    xfa6.fb7 n4 xfab.fb7 nc xf90.fb5 n6c p1025.102e nadf p1b05.1b35 n1 p1b07.1b35 n1 p1b09.1b35 n1
    p1b0b.1b35 n1 p1b0d.1b35 n3 p1b11.1b35 n28 p1b3a.1b35 n1 p1b3c.1b35 n2 p1b3e.1b35 p1b3f.1b35 n1
    p1b42.1b35 n2bc p41.325 p61.325 p42.307 p62.307 p42.323 p62.323 p42.331 p62.331 pc7.301 pe7.301
    p44.307 p64.307 p44.323 p64.323 p44.331 p64.331 p44.327 p64.327 p44.32d p64.32d p112.300
    p113.300 p112.301 p113.301 p45.32d p65.32d p45.330 p65.330 p228.306 p229.306 p46.307 p66.307
    p47.304 p67.304 p48.307 p68.307 p48.323 p68.323 p48.308 p68.308 p48.327 p68.327 p48.32e p68.32e
    p49.330 p69.330 pcf.301 pef.301 p4b.301 p6b.301 p4b.323 p6b.323 p4b.331 p6b.331 p4c.323 p6c.323
    p1e36.304 p1e37.304 p4c.331 p6c.331 p4c.32d p6c.32d p4d.301 p6d.301 p4d.307 p6d.307 p4d.323
    p6d.323 p4e.307 p6e.307 p4e.323 p6e.323 p4e.331 p6e.331 p4e.32d p6e.32d pd5.301 pf5.301 pd5.308
    pf5.308 p14c.300 p14d.300 p14c.301 p14d.301 p50.301 p70.301 p50.307 p70.307 p52.307 p72.307
    p52.323 p72.323 p1e5a.304 p1e5b.304 p52.331 p72.331 p53.307 p73.307 p53.323 p73.323 p15a.307
    p15b.307 p160.307 p161.307 p1e62.307 p1e63.307 p54.307 p74.307 p54.323 p74.323 p54.331 p74.331
    p54.32d p74.32d p55.324 p75.324 p55.330 p75.330 p55.32d p75.32d p168.301 p169.301 p16a.308
    p16b.308 p56.303 p76.303 p56.323 p76.323 p57.300 p77.300 p57.301 p77.301 p57.308 p77.308 p57.307
    p77.307 p57.323 p77.323 p58.307 p78.307 p58.308 p78.308 p59.307 p79.307 p5a.302 p7a.302 p5a.323
    p7a.323 p5a.331 p7a.331 p68.331 p74.308 p77.30a p79.30a n1 p17f.307 n4 p41.323 p61.323 p41.309
    p61.309 pc2.301 pe2.301 pc2.300 pe2.300 pc2.309 pe2.309 pc2.303 pe2.303 p1ea0.302 p1ea1.302
    p102.301 p103.301 p102.300 p103.300 p102.309 p103.309 p102.303 p103.303 p1ea0.306 p1ea1.306
    p45.323 p65.323 p45.309 p65.309 p45.303 p65.303 pca.301 pea.301 pca.300 pea.300 pca.309 pea.309
    pca.303 pea.303 p1eb8.302 p1eb9.302 p49.309 p69.309 p49.323 p69.323 p4f.323 p6f.323 p4f.309
    p6f.309 pd4.301 pf4.301 pd4.300 pf4.300 pd4.309 pf4.309 pd4.303 pf4.303 p1ecc.302 p1ecd.302
    p1a0.301 p1a1.301 p1a0.300 p1a1.300 p1a0.309 p1a1.309 p1a0.303 p1a1.303 p1a0.323 p1a1.323
    p55.323 p75.323 p55.309 p75.309 p1af.301 p1b0.301 p1af.300 p1b0.300 p1af.309 p1b0.309 p1af.303
    p1b0.303 p1af.323 p1b0.323 p59.300 p79.300 p59.323 p79.323 p59.309 p79.309 p59.303 p79.303 n6
    p3b1.313 p3b1.314 p1f00.300 p1f01.300 p1f00.301 p1f01.301 p1f00.342 p1f01.342 p391.313 p391.314
    p1f08.300 p1f09.300 p1f08.301 p1f09.301 p1f08.342 p1f09.342 p3b5.313 p3b5.314 p1f10.300
    p1f11.300 p1f10.301 p1f11.301 n2 p395.313 p395.314 p1f18.300 p1f19.300 p1f18.301 p1f19.301 n2
    p3b7.313 p3b7.314 p1f20.300 p1f21.300 p1f20.301 p1f21.301 p1f20.342 p1f21.342 p397.313 p397.314
    p1f28.300 p1f29.300 p1f28.301 p1f29.301 p1f28.342 p1f29.342 p3b9.313 p3b9.314 p1f30.300
    p1f31.300 p1f30.301 p1f31.301 p1f30.342 p1f31.342 p399.313 p399.314 p1f38.300 p1f39.300
    p1f38.301 p1f39.301 p1f38.342 p1f39.342 p3bf.313 p3bf.314 p1f40.300 p1f41.300 p1f40.301
    p1f41.301 n2 p39f.313 p39f.314 p1f48.300 p1f49.300 p1f48.301 p1f49.301 n2 p3c5.313 p3c5.314
    p1f50.300 p1f51.300 p1f50.301 p1f51.301 p1f50.342 p1f51.342 n1 p3a5.314 n1 p1f59.300 n1
    p1f59.301 n1 p1f59.342 p3c9.313 p3c9.314 p1f60.300 p1f61.300 p1f60.301 p1f61.301 p1f60.342
    p1f61.342 p3a9.313 p3a9.314 p1f68.300 p1f69.300 p1f68.301 p1f69.301 p1f68.342 p1f69.342 p3b1.300
    x3b1.301 p3b5.300 x3b5.301 p3b7.300 x3b7.301 p3b9.300 x3b9.301 p3bf.300 x3bf.301 p3c5.300
    x3c5.301 p3c9.300 x3c9.301 n2 p1f00.345 p1f01.345 p1f02.345 p1f03.345 p1f04.345 p1f05.345
    p1f06.345 p1f07.345 p1f08.345 p1f09.345 p1f0a.345 p1f0b.345 p1f0c.345 p1f0d.345 p1f0e.345
    p1f0f.345 p1f20.345 p1f21.345 p1f22.345 p1f23.345 p1f24.345 p1f25.345 p1f26.345 p1f27.345
    p1f28.345 p1f29.345 p1f2a.345 p1f2b.345 p1f2c.345 p1f2d.345 p1f2e.345 p1f2f.345 p1f60.345
    p1f61.345 p1f62.345 p1f63.345 p1f64.345 p1f65.345 p1f66.345 p1f67.345 p1f68.345 p1f69.345
    p1f6a.345 p1f6b.345 p1f6c.345 p1f6d.345 p1f6e.345 p1f6f.345 p3b1.306 p3b1.304 p1f70.345 p3b1.345
    p3ac.345 n1 p3b1.342 p1fb6.345 p391.306 p391.304 p391.300 x391.301 p391.345 n1 s3b9 n2 pa8.342
    p1f74.345 p3b7.345 p3ae.345 n1 p3b7.342 p1fc6.345 p395.300 x395.301 p397.300 x397.301 p397.345
    p1fbf.300 p1fbf.301 p1fbf.342 p3b9.306 p3b9.304 p3ca.300 x3ca.301 n2 p3b9.342 p3ca.342 p399.306
    p399.304 p399.300 x399.301 n1 p1ffe.300 p1ffe.301 p1ffe.342 p3c5.306 p3c5.304 p3cb.300 x3cb.301
    p3c1.313 p3c1.314 p3c5.342 p3cb.342 p3a5.306 p3a5.304 p3a5.300 x3a5.301 p3a1.314 pa8.300 xa8.301
    s60 n2 p1f7c.345 p3c9.345 p3ce.345 n1 p3c9.342 p1ff6.345 p39f.300 x39f.301 p3a9.300 x3a9.301
    p3a9.345 sb4 n2 s2002 s2003 n124 s3a9 n3 s4b x41.30a n6e p2190.338 p2192.338 n12 p2194.338 n1e
    p21d0.338 p21d4.338 p21d2.338 n34 p2203.338 n4 p2208.338 n2 p220b.338 n17 p2223.338 n1 p2225.338
    n1a p223c.338 n2 p2243.338 n2 p2245.338 n1 p2248.338 n16 p3d.338 n1 p2261.338 na p224d.338
    p3c.338 p3e.338 p2264.338 p2265.338 n2 p2272.338 p2273.338 n2 p2276.338 p2277.338 n6 p227a.338
    p227b.338 n2 p2282.338 p2283.338 n2 p2286.338 p2287.338 n22 p22a2.338 p22a8.338 p22a9.338
    p22ab.338 n30 p227c.338 p227d.338 p2291.338 p2292.338 n6 p22b2.338 p22b3.338 p22b4.338 p22b5.338
    n3b s3008 s3009 n7b1 x2add.338 n56f p304b.3099 n1 p304d.3099 n1 p304f.3099 n1 p3051.3099 n1
    p3053.3099 n1 p3055.3099 n1 p3057.3099 n1 p3059.3099 n1 p305b.3099 n1 p305d.3099 n1 p305f.3099
    n1 p3061.3099 n2 p3064.3099 n1 p3066.3099 n1 p3068.3099 n6 p306f.3099 p306f.309a n1 p3072.3099
    p3072.309a n1 p3075.3099 p3075.309a n1 p3078.3099 p3078.309a n1 p307b.3099 p307b.309a n16
    p3046.3099 n9 p309d.3099 nd p30ab.3099 n1 p30ad.3099 n1 p30af.3099 n1 p30b1.3099 n1 p30b3.3099
    n1 p30b5.3099 n1 p30b7.3099 n1 p30b9.3099 n1 p30bb.3099 n1 p30bd.3099 n1 p30bf.3099 n1
    p30c1.3099 n2 p30c4.3099 n1 p30c6.3099 n1 p30c8.3099 n6 p30cf.3099 p30cf.309a n1 p30d2.3099
    p30d2.309a n1 p30d5.3099 p30d5.309a n1 p30d8.3099 p30d8.309a n1 p30db.3099 p30db.309a n16
    p30a6.3099 n2 p30ef.3099 p30f0.3099 p30f1.3099 p30f2.3099 n3 p30fd.3099 nc801 s8c48 s66f4 s8eca
    s8cc8 s6ed1 s4e32 s53e5 s9f9c s9f9c s5951 s91d1 s5587 s5948 s61f6 s7669 s7f85 s863f s87ba s88f8
    s908f s6a02 s6d1b s70d9 s73de s843d s916a s99f1 s4e82 s5375 s6b04 s721b s862d s9e1e s5d50 s6feb
    s85cd s8964 s62c9 s81d8 s881f s5eca s6717 s6d6a s72fc s90ce s4f86 s51b7 s52de s64c4 s6ad3 s7210
    s76e7 s8001 s8606 s865c s8def s9732 s9b6f s9dfa s788c s797f s7da0 s83c9 s9304 s9e7f s8ad6 s58df
    s5f04 s7c60 s807e s7262 s78ca s8cc2 s96f7 s58d8 s5c62 s6a13 s6dda s6f0f s7d2f s7e37 s964b s52d2
    s808b s51dc s51cc s7a1c s7dbe s83f1 s9675 s8b80 s62cf s6a02 s8afe s4e39 s5be7 s6012 s7387 s7570
    s5317 s78fb s4fbf s5fa9 s4e0d s6ccc s6578 s7d22 s53c3 s585e s7701 s8449 s8aaa s6bba s8fb0 s6c88
    s62fe s82e5 s63a0 s7565 s4eae s5169 s51c9 s6881 s7ce7 s826f s8ad2 s91cf s52f5 s5442 s5973 s5eec
    s65c5 s6ffe s792a s95ad s9a6a s9e97 s9ece s529b s66c6 s6b77 s8f62 s5e74 s6190 s6200 s649a s6f23
    s7149 s7489 s79ca s7df4 s806f s8f26 s84ee s9023 s934a s5217 s52a3 s54bd s70c8 s88c2 s8aaa s5ec9
    s5ff5 s637b s6bae s7c3e s7375 s4ee4 s56f9 s5be7 s5dba s601c s73b2 s7469 s7f9a s8046 s9234 s96f6
    s9748 s9818 s4f8b s79ae s91b4 s96b8 s60e1 s4e86 s50da s5bee s5c3f s6599 s6a02 s71ce s7642 s84fc
    s907c s9f8d s6688 s962e s5289 s677b s67f3 s6d41 s6e9c s7409 s7559 s786b s7d10 s985e s516d s622e
    s9678 s502b s5d19 s6dea s8f2a s5f8b s6144 s6817 s7387 s9686 s5229 s540f s5c65 s6613 s674e s68a8
    s6ce5 s7406 s75e2 s7f79 s88cf s88e1 s91cc s96e2 s533f s6eba s541d s71d0 s7498 s85fa s96a3 s9c57
    s9e9f s6797 s6dcb s81e8 s7acb s7b20 s7c92 s72c0 s7099 s8b58 s4ec0 s8336 s523a s5207 s5ea6 s62d3
    s7cd6 s5b85 s6d1e s66b4 s8f3b s884c s964d s898b s5ed3 s5140 s55c0 n2 s585a n1 s6674 n2 s51de
    s732a s76ca s793c s795e s7965 s798f s9756 s7cbe s7fbd n1 s8612 n1 s8af8 n2 s9038 s90fd n3 s98ef
    s98fc s9928 s9db4 s90de s96b7 s4fae s50e7 s514d s52c9 s52e4 s5351 s559d s5606 s5668 s5840 s58a8
    s5c64 s5c6e s6094 s6168 s618e s61f2 s654f s65e2 s6691 s6885 s6d77 s6e1a s6f22 s716e s722b s7422
    s7891 s793e s7949 s7948 s7950 s7956 s795d s798d s798e s7a40 s7a81 s7bc0 s7df4 s7e09 s7e41 s7f72
    s8005 s81ed s8279 s8279 s8457 s8910 s8996 s8b01 s8b39 s8cd3 s8d08 s8fb6 s9038 s96e3 s97ff s983b
    s6075 s242ee s8218 n2 s4e26 s51b5 s5168 s4f80 s5145 s5180 s52c7 s52fa s559d s5555 s5599 s55e2
    s585a s58b3 s5944 s5954 s5a62 s5b28 s5ed2 s5ed9 s5f69 s5fad s60d8 s614e s6108 s618e s6160 s61f2
    s6234 s63c4 s641c s6452 s6556 s6674 s6717 s671b s6756 s6b79 s6bba s6d41 s6edb s6ecb s6f22 s701e
    s716e s77a7 s7235 s72af s732a s7471 s7506 s753b s761d s761f s76ca s76db s76f4 s774a s7740 s78cc
    s7ab1 s7bc0 s7c7b s7d5b s7df4 s7f3e s8005 s8352 s83ef s8779 s8941 s8986 s8996 s8abf s8af8 s8acb
    s8b01 s8afe s8aed s8b39 s8b8a s8d08 s8f38 s9072 s9199 s9276 s967c s96e3 s9756 s97db s97ff s980b
    s983b s9b12 s9f9c s2284a s22844 s233d5 s3b9d s4018 s4039 s25249 s25cd0 s27ed3 s9f43 s9f8e n43
    x5d9.5b4 n1 x5f2.5b7 na x5e9.5c1 x5e9.5c2 xfb49.5c1 xfb49.5c2 x5d0.5b7 x5d0.5b8 x5d0.5bc
    x5d1.5bc x5d2.5bc x5d3.5bc x5d4.5bc x5d5.5bc x5d6.5bc n1 x5d8.5bc x5d9.5bc x5da.5bc x5db.5bc
    x5dc.5bc n1 x5de.5bc n1 x5e0.5bc x5e1.5bc n1 x5e3.5bc x5e4.5bc n1 x5e6.5bc x5e7.5bc x5e8.5bc
    x5e9.5bc x5ea.5bc x5d5.5b9 x5d1.5bf x5db.5bf x5e4.5bf na7a p105d2.307 n1a p105da.307 nab5
    p11099.110ba n1 p1109b.110ba ne p110a5.110ba n82 p11131.11127 p11132.11127 n21b p11347.1133e
    p11347.11357 n36 p11382.113c9 n1 p11384.113bb n8 p1138b.113c2 n2 p11390.113c9 n33 p113c2.113c2
    n1 p113c2.113b8 p113c2.113c9 nf2 p114b9.114ba p114b9.114b0 n1 p114b9.114bd nfb p115b8.115af
    p115b9.115af n37c p11935.11930 n47e8 p1611e.1611e p1611e.16129 p1611e.1611f p16129.1611f
    p1611e.16120 p16121.1611f p16122.1611f p16121.16120 nc3f p16d67.16d67 p16d63.16d67 p16d69.16d67
    n63f3 x1d157.1d165 x1d158.1d165 x1d15f.1d16e x1d15f.1d16f x1d15f.1d170 x1d15f.1d171 x1d15f.1d172
    n56 x1d1b9.1d165 x1d1ba.1d165 x1d1bb.1d16e x1d1bc.1d16e x1d1bb.1d16f x1d1bc.1d16f n1263f s4e3d
    s4e38 s4e41 s20122 s4f60 s4fae s4fbb s5002 s507a s5099 s50e7 s50cf s349e s2063a s514d s5154
    s5164 s5177 s2051c s34b9 s5167 s518d s2054b s5197 s51a4 s4ecc s51ac s51b5 s291df s51f5 s5203
    s34df s523b s5246 s5272 s5277 s3515 s52c7 s52c9 s52e4 s52fa s5305 s5306 s5317 s5349 s5351 s535a
    s5373 s537d s537f s537f s537f s20a2c s7070 s53ca s53df s20b63 s53eb s53f1 s5406 s549e s5438
    s5448 s5468 s54a2 s54f6 s5510 s5553 s5563 s5584 s5584 s5599 s55ab s55b3 s55c2 s5716 s5606 s5717
    s5651 s5674 s5207 s58ee s57ce s57f4 s580d s578b s5832 s5831 s58ac s214e4 s58f2 s58f7 s5906 s591a
    s5922 s5962 s216a8 s216ea s59ec s5a1b s5a27 s59d8 s5a66 s36ee s36fc s5b08 s5b3e s5b3e s219c8
    s5bc3 s5bd8 s5be7 s5bf3 s21b18 s5bff s5c06 s5f53 s5c22 s3781 s5c60 s5c6e s5cc0 s5c8d s21de4
    s5d43 s21de6 s5d6e s5d6b s5d7c s5de1 s5de2 s382f s5dfd s5e28 s5e3d s5e69 s3862 s22183 s387c
    s5eb0 s5eb3 s5eb6 s5eca s2a392 s5efe s22331 s22331 s8201 s5f22 s5f22 s38c7 s232b8 s261da s5f62
    s5f6b s38e3 s5f9a s5fcd s5fd7 s5ff9 s6081 s393a s391c s6094 s226d4 s60c7 s6148 s614c s614e s614c
    s617a s618e s61b2 s61a4 s61af s61de s61f2 s61f6 s6210 s621b s625d s62b1 s62d4 s6350 s22b0c s633d
    s62fc s6368 s6383 s63e4 s22bf1 s6422 s63c5 s63a9 s3a2e s6469 s647e s649d s6477 s3a6c s654f s656c
    s2300a s65e3 s66f8 s6649 s3b19 s6691 s3b08 s3ae4 s5192 s5195 s6700 s669c s80ad s43d9 s6717 s671b
    s6721 s675e s6753 s233c3 s3b49 s67fa s6785 s6852 s6885 s2346d s688e s681f s6914 s3b9d s6942
    s69a3 s69ea s6aa8 s236a3 s6adb s3c18 s6b21 s238a7 s6b54 s3c4e s6b72 s6b9f s6bba s6bbb s23a8d
    s21d0b s23afa s6c4e s23cbc s6cbf s6ccd s6c67 s6d16 s6d3e s6d77 s6d41 s6d69 s6d78 s6d85 s23d1e
    s6d34 s6e2f s6e6e s3d33 s6ecb s6ec7 s23ed1 s6df9 s6f6e s23f5e s23f8e s6fc6 s7039 s701e s701b
    s3d96 s704a s707d s7077 s70ad s20525 s7145 s24263 s719c s243ab s7228 s7235 s7250 s24608 s7280
    s7295 s24735 s24814 s737a s738b s3eac s73a5 s3eb8 s3eb8 s7447 s745c s7471 s7485 s74ca s3f1b
    s7524 s24c36 s753e s24c92 s7570 s2219f s7610 s24fa1 s24fb8 s25044 s3ffc s4008 s76f4 s250f3
    s250f2 s25119 s25133 s771e s771f s771f s774a s4039 s778b s4046 s4096 s2541d s784e s788c s78cc
    s40e3 s25626 s7956 s2569a s256c5 s798f s79eb s412f s7a40 s7a4a s7a4f s2597c s25aa7 s25aa7 s7aee
    s4202 s25bab s7bc6 s7bc9 s4227 s25c80 s7cd2 s42a0 s7ce8 s7ce3 s7d00 s25f86 s7d63 s4301 s7dc7
    s7e02 s7e45 s4334 s26228 s26247 s4359 s262d9 s7f7a s2633e s7f95 s7ffa s8005 s264da s26523 s8060
    s265a8 s8070 s2335f s43d5 s80b2 s8103 s440b s813e s5ab5 s267a7 s267b5 s23393 s2339c s8201 s8204
    s8f9e s446b s8291 s828b s829d s52b3 s82b1 s82b3 s82bd s82e6 s26b3c s82e5 s831d s8363 s83ad s8323
    s83bd s83e7 s8457 s8353 s83ca s83cc s83dc s26c36 s26d6b s26cd5 s452b s84f1 s84f3 s8516 s273ca
    s8564 s26f2c s455d s4561 s26fb1 s270d2 s456b s8650 s865c s8667 s8669 s86a9 s8688 s870e s86e2
    s8779 s8728 s876b s8786 s45d7 s87e1 s8801 s45f9 s8860 s8863 s27667 s88d7 s88de s4635 s88fa s34bb
    s278ae s27966 s46be s46c7 s8aa0 s8aed s8b8a s8c55 s27ca8 s8cab s8cc1 s8d1b s8d77 s27f2f s20804
    s8dcb s8dbc s8df0 s208de s8ed4 s8f38 s285d2 s285ed s9094 s90f1 s9111 s2872e s911b s9238 s92d7
    s92d8 s927c s93f9 s9415 s28bfa s958b s4995 s95b7 s28d77 s49e6 s96c3 s5db2 s9723 s29145 s2921a
    s4a6e s4a76 s97e0 s2940a s4ab2 s29496 s980b s980b s9829 s295b6 s98e2 s4b33 s9929 s99a7 s99c2
    s99fe s4bce s29b30 s9b12 s9c40 s9cfd s4cce s4ced s9d67 s2a0ce s4cf8 s2a105 s2a20e s2a291 s9ebb
    s4d56 s9ef9 s9efe s9f05 s9f0f s9f16 s9f3b s2a600 ne05e2"

/-- How a character is written with others. -/
structure Rule where
  parts : List Char
  /-- Whether the parts make the character again. -/
  isReversible : Bool
deriving DecidableEq, Repr

/-- The rule of a word of the table, with the length of its run. -/
def rule (entry : Runs.Entry) : Nat × Rule :=
  if entry.kind = 'n' then (entry.numbers.headD 0, ⟨[], false⟩)
  else (1, ⟨entry.numbers.map Char.ofNat, entry.kind = 'p'⟩)

/-- The words of the table. -/
def entries : List Runs.Entry := Runs.entries text

/-- The rule at every code point; a character without parts has none in its rule either. -/
def rules : Runs Rule := Runs.ofEntries rule entries

/-- A number for each pair of characters. -/
def pairCode (left right : Char) : Nat := 0x110000 * left.toNat + right.toNat

/-- The pairs that make a character, by their numbers. -/
def composites : Std.HashMap Nat Char :=
  rules.runs.foldl
    (fun table run =>
      match run.value with
      | ⟨[first, second], true⟩ => table.insert (pairCode first second) (Char.ofNat run.first)
      | _ => table)
    ∅

end Decomposition

/-! ## Korean syllables -/

namespace Syllable

/-- The first syllable; the others follow in the order of their letters. -/
def first : Nat := 0xac00

/-- The consonants that a syllable begins with: the first of them, and their number. -/
def leading : Nat × Nat := (0x1100, 19)

/-- The vowels of a syllable. -/
def vowels : Nat × Nat := (0x1161, 21)

/-- The consonants that a syllable may end with; the first place stands for none. -/
def trailing : Nat × Nat := (0x11a7, 28)

/-- Whether a code point is in a block, at any place from `low` on. -/
def isIn (block : Nat × Nat) (low code : Nat) : Bool :=
  block.1 + low ≤ code && code < block.1 + block.2

/-- All syllables. -/
def all : Nat × Nat := (first, leading.2 * vowels.2 * trailing.2)

/-- The parts of a syllable: a shorter syllable and its end, or its two letters. -/
def parts? (code : Nat) : Option (List Char) :=
  if isIn all 0 code then
    let place := code - first
    if place % trailing.2 = 0 then
      let row := place / trailing.2
      some [Char.ofNat (leading.1 + row / vowels.2), Char.ofNat (vowels.1 + row % vowels.2)]
    else some [Char.ofNat (code - place % trailing.2), Char.ofNat (trailing.1 + place % trailing.2)]
  else none

/-- The syllable that two parts make. -/
def composite? (left right : Nat) : Option Char :=
  if isIn leading 0 left && isIn vowels 0 right then
    let row := (left - leading.1) * vowels.2 + (right - vowels.1)
    some (Char.ofNat (first + row * trailing.2))
  else if isIn all 0 left && (left - first) % trailing.2 = 0 && isIn trailing 1 right then
    some (Char.ofNat (left + (right - trailing.1)))
  else none

end Syllable

/-! ## Parts and wholes -/

/-- The parts of a character; none if it does not fall apart. -/
def parts? (c : Char) : Option (List Char) :=
  match Syllable.parts? c.toNat with
  | some parts => some parts
  | none =>
    match Decomposition.rules.value? c.toNat with
    | some ⟨first :: rest, _⟩ => some (first :: rest)
    | _ => none

/-- The depth to which characters fall apart. -/
def Decomposition.depth : Nat := 4

/-- A text with every character taken apart. -/
def decompose (text : List Char) : List Char :=
  (List.range Decomposition.depth).foldl
    (fun text _ => text.flatMap fun c => (parts? c).getD [c]) text

/-- The character that two characters make. -/
def composite? (left right : Char) : Option Char :=
  match Syllable.composite? left.toNat right.toNat with
  | some syllable => some syllable
  | none => Decomposition.composites[Decomposition.pairCode left right]?

end DutyRelay.Unicode
