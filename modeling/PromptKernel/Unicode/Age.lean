import PromptKernel.Unicode.Runs

/-! The version of the standard in which each code point got its meaning. -/

namespace PromptKernel.Unicode

def versions : List (String × String) :=
  [("g", "1.1"), ("h", "2.0"), ("i", "2.1"), ("j", "3.0"), ("k", "3.1"), ("l", "3.2"),
   ("m", "4.0"), ("n", "4.1"), ("o", "5.0"), ("p", "5.1"), ("q", "5.2"), ("r", "6.0"),
   ("s", "6.1"), ("t", "6.2"), ("u", "6.3"), ("v", "7.0"), ("w", "8.0"), ("x", "9.0"),
   ("y", "10.0"), ("z", "11.0"), ("A", "12.0"), ("B", "12.1"), ("C", "13.0"), ("D", "14.0"),
   ("E", "15.0"), ("F", "15.1"), ("G", "16.0")]

def ageText : String := String.join [
    "g1f6 j4 g1e j8 l1 m1 j12 m3 nb oe g59 j5 m2 g2f j1 ga j5 m11 g46 j9 l1 m8 n5 m3 g2 j1 ld ",
    "p4 g2 p2 -2 g1 o3 g1 v1 -4 g7 -1 g1 -1 g14 -1 g2c p1 g7 j1 l2 g1 j1 g1 j1 g1 j1 g1 j1 g12 ",
    "k2 l1 m5 n4 j1 gc j1 g42 j1 gc j1 g29 p1 j2 l2 j4 g35 l2 g2 l2 g2 l2 o1 g1c j2 g8 n2 g2 ",
    "o6 l10 o4 p10 q2 r2 v8 -1 g26 -2 g7 z1 g27 z1 g1 j1 -2 v2 s1 -1 h11 n1 hd ga o1 g9 h1 n3 ",
    "-8 g1b -4 z1 g5 -b m4 s1 v1 p5 n1 g1 m9 p5 g1 u1 D1 n1 g1 r1 g1a p5 g13 j3 m3 n6 r1 ge l2 ",
    "g48 j2 g5 j1 gf j1 g1e m2 ga j5 m1 je -1 j1e m3 j1b -2 m3 n1e p12 j31 l1 -e o3b -2 z3 q2e ",
    "-2 qf -1 r1c -2 r1 -1 yb -5 D1f -1 D2 -5 G1 D8 s1 v1 sb v6 w2 D1 x8 Ca Db z1 xf w1 s1b v1 ",
    "q1 g3 m1 g35 r2 g12 q1 r1 g5 q1 r2 g19 p2 r5 v1 q2 o2 n1 o2 v1 g3 -1 g8 -2 g2 -2 g16 -1 ",
    "g7 -1 g1 -3 g4 -2 g1 m1 g7 -2 g2 -2 g3 n1 -8 g1 -4 g2 -1 g5 -2 g15 q1 y2 z1 -2 m1 g1 m1 ",
    "-1 g6 -4 g2 -2 g16 -1 g7 -1 g2 -1 g2 -1 g2 -2 g1 -1 g5 -4 g2 -2 g3 -3 p1 -7 g4 -1 g1 -7 ",
    "gf p1 z1 -a g3 -1 g7 m1 g1 -1 g3 -1 g16 -1 g7 -1 g2 -1 g5 -2 ga -1 g3 -1 g3 -2 g1 -f g1 ",
    "m3 -2 ga s1 m1 -7 w1 y6 -1 g3 -1 g8 -2 g2 -2 g16 -1 g7 -1 g2 -1 m1 g4 -2 g8 p1 -2 g2 -2 ",
    "g3 -7 C1 g2 -4 g2 -1 g3 p2 -2 gb m1 r6 -a g2 -1 g6 -3 g3 -1 g4 -3 g2 -1 g1 -1 g2 -3 g2 -3 ",
    "g3 -3 g8 n1 g3 -4 g5 -3 g3 -1 g4 -2 p1 -6 g1 -e n1 gc m8 -5 v1 g3 z1 g8 -1 g3 -1 g17 -1 ",
    "ga v1 g5 -2 D1 p1 g7 -1 g3 -1 g4 -7 g2 -1 p2 w1 -2 D1 -2 g2 p2 -2 ga -7 A1 p8 x1 v1 g2 z1 ",
    "g8 -1 g3 -1 g17 -1 ga -1 g5 -2 m2 g7 -1 g3 -1 g4 -7 g2 -6 D1 g1 -1 g2 o2 -2 ga -1 o2 E1 ",
    "-c y1 v1 g2 C1 g8 -1 g3 -1 g17 r1 g10 r1 y2 p1 g6 p1 -1 g3 -1 g4 r1 x1 -4 x3 g1 x7 w1 g2 ",
    "p2 -2 ga p6 x3 p7 -1 C1 j2 -1 j12 -3 j18 -1 j9 -1 j1 -2 j7 -3 j1 -4 j6 -1 j1 -1 j8 -6 va ",
    "-2 j3 -c g3a -4 g1d -25 g2 -1 g1 -1 A1 g2 A1 g1 -1 A1 g1 A6 g4 A1 g7 A1 g3 -1 g1 -1 g1 A2 ",
    "g2 A1 gd A1 g3 -2 g5 -1 g1 -1 g6 E1 -1 ga -2 g2 s2 -20 h48 -1 h21 j1 p2 -4 h1b r4 h6 j1 ",
    "h1 -1 h15 j3 h7 j1 h1 j3 -1 jf -1 p1 j1 n2 p3 q4 r2 -25 j22 p1 j5 p1 j2 p1 j7 p3 j4 p6 ",
    "j1a p40 q4 p2 g26 -1 s1 -5 s1 -2 g27 l2 n2 g1 n1 s3 g5a q5 g44 q5 g52 q6 j7 n1 j3f n1 j1 ",
    "-1 j4 -2 j7 -1 j1 -1 j4 -2 j27 n1 j1 -1 j4 -2 j1f n1 j1 -1 j4 -2 j7 -1 j1 -1 j4 -2 j7 n1 ",
    "j7 -1 j17 n1 j1f n1 j1 -1 j4 -2 j7 n1 j27 n1 j13 -2 r2 n2 j1c -3 n1a -6 j55 w1 -2 w6 -2 ",
    "q1 j276 q9 j1d -3 j51 v8 -7 ld D1 l7 D1 -9 D1 l17 -9 l14 -c ld -1 l3 -1 l2 -c j5d m1 -2 ",
    "ja -6 ma -6 jf D1 ja -6 j58 z1 -7 j2a p1 -5 q46 -a m1d v2 -1 mc -4 mc -4 m1 -3 m2a -2 m5 ",
    "-b n2a q2 -4 n1a -6 na q1 -3 n2 m20 n1c -2 n2 q3f -1 q1d -2 qb -6 qa -6 qe -2 vf C2 De ",
    "-31 o4c D1 -1 G2 o2d D2 G1 p2b s3 pc s6 r34 -8 r4 p38 -3 pf -3 p33 x9 G2 -5 z2b -2 z3 s8 ",
    "-8 q23 s4 y1 v2 A1 -5 m6c n58 o7 p1c vf y4 D1 x1 r1 q1 o2 g9b h1 p4 g5a p6 g16 -2 g6 -2 ",
    "g26 -2 g6 -2 g8 -1 g1 -1 g1 -1 g1 -1 g1f -2 g35 -1 gf -1 ge -2 g6 -1 g13 -2 g3 -1 g9 -1 ",
    "g2f j1 g17 l1 j6 l5 m2 n2 l1 n7 l5 p1 -1 u4 g7 l1 -2 g1b -1 n5 r8 -3 gb h1 i1 j3 l2 n4 q3 ",
    "r1 t1 v3 w1 y1 D1 -f g12 j2 l7 n1 o4 p1 -f g39 j2 m1 n1 lf n1 o2 p1 q3 g30 j1 o1 p4 q1 w2 ",
    "-4 g5b j9 lc gf2 le g1 j1 g79 j1 l1 j1e l34 m2 nb oc q1 rb v7 x4 y1 g25 j2 G3 -16 gb -15 ",
    "g8b l14 m1 g96 la g50 j8 l8 g14 m2 l2 n1 j1 g56 j2 lc n2 la m8 nb p1 q2 m2 n10 o1 pa q3 ",
    "p4 qa r1 q13 r1 q1 r4 q18 v1 g4 r1 g4 r2 g1c r1 g23 r1 g1 r1 g4 r3 g1 q1 g7 r2 g7 le g1f ",
    "r3 g18 r1 ge r1 n7 o4 s1 p1 s1 r2 l1c p4 l10 j100 l200 me n6 o7 p5 o4 p29 v3 p5 q5 v1a -2 ",
    "v20 -1 C1 v22 z3 vc A1 v8 y1 z19 w4 zf A1 n2f D1 n2f D1 od p3 q1 p3 o4 p6 q2 n6b q7 s2 -5 ",
    "n2d -1 s1 -5 s1 -2 n36 s2 -7 n1 r1 -e r1 n17 -9 n7 -1 n7 -1 n7 -1 n7 -1 n7 -1 n7 -1 n7 -1 ",
    "n7 -1 p20 n18 p4 n2 p13 q1 sa v7 x2 y5 z5 A1 C3 Db -22 j1a -1 j59 -c jd6 -1a jc F4 g38 j3 ",
    "l3 j1 g1 -1 g54 l2 -2 g6 l2 g5e l1 -5 g28 p1 y1 z1 -1 g5e -1 g10 j18 r3 C5 n10 p14 G2 -9 ",
    "F1 l10 g1d m2 -1 g24 qc m1 lf g1c m2 n1 g32 lf gc m4 g2f B1 g77 m4 g63 m2 g1f m1 j19b6 Ca ",
    "m40 g51a6 n16 p8 q8 s1 w9 y15 z5 Cd D3 j48d -3 j12 l2 j10 l1 jc l1 j3 l1 j1 -9 q30 p12c ",
    "-14 p20 r2 p12 s8 p1c v6 w1 s1 q58 -8 n17 o4 p5 o2 p6b r2 w1 r2 s2 vc ra s1 v3 x1 z1 v2 ",
    "w6 z2 A6 D2 A5 C4 G3 -2 D2 -1 D1 -1 D5 G3 -15 D3 C2 v1 s2 r1 p5 n2c C1 -3 qa -6 o38 -8 ",
    "p45 x1 -8 pc -6 q1c w2 z2 p54 -b p1 q1d -3 q4e -1 qb -4 q2 v1f -1 p37 -9 pe -2 pa -2 p4 ",
    "q1c v4 q43 -18 q5 s17 -a r6 -2 r6 -2 r6 -9 r7 -1 r7 -1 v30 w4 v2 A2 C4 -4 w50 q2e -2 qa ",
    "-6 h2ba4 -c q17 -4 q31 -4 h800 g1a2e s2 l3b q3 -2 n6a -26 g7 -c g5 -5 j1 g19 -1 g5 -1 g1 ",
    "-1 g2 -1 g2 -1 g6c r10 D1 -10 g16d D10 g40 -2 g36 -7 D1 k20 gc l1 m1 D2 l10 na -6 g4 p3 ",
    "v7 w2 g15 l2 m2 ga -1 g13 -1 g4 -4 g3 l1 g1 -1 g87 -2 g1 -1 g5e l2 g5e -3 g6 -2 g6 -2 g6 ",
    "-2 g3 -3 g7 -1 g7 -a j3 i1 g3 mc -1 m1a -1 m13 -1 m2 -1 mf -2 me -22 m7b -5 m3 -4 m2d -3 ",
    "m9 n4b v2 x2 -1 pc C1 -3 v1 -2f p2e -82 p1d -3 p31 -f v1c -4 k1f v1 k4 -9 y3 k1b -5 v2b ",
    "-5 m1e -1 m1 n24 -4 ne -2a k26 m2 k26 m50 -2 ma -6 x24 -4 x24 -4 v28 -8 v34 -b v1 Db -1 ",
    "Df -1 D7 -1 D2 -1 Db -1 Df -1 D7 -1 D2 -3 G34 -c v137 -9 v16 -a v8 -18 D6 -1 D2a -1 D9 ",
    "-45 m6 -2 m1 -1 m2c -1 m2 -3 m1 -2 m1 q16 -1 q9 v3f -8 v9 -30 w13 -1 w2 -5 w5 o1a q2 -3 ",
    "o1 p1a -5 p1 -40 s38 -4 w2 s2 w10 -2 w2e n4 -1 n2 -5 n8 -1 n3 -1 n1b z2 -2 n3 -4 n9 z1 -7 ",
    "n9 -7 q20 v20 -20 v27 -4 vc -9 q36 -3 q1d -2 q1b -5 q8 v12 -7 v4 -c v7 -50 q49 -37 w33 -d ",
    "w33 -7 w6 z28 -8 za -6 G26 -3 G1d -8 G2 -d0 q1f -1 C2a -1 C3 -2 C2 -10 G3 -37 G1 E3 z28 ",
    "-8 z2a -16 D1a -26 C1c -14 A17 -9 r4e -4 r1e D6 -9 v1 q42 D1 -a z1 -2 s19 -7 sa -6 s35 -1 ",
    "se z3 C1 -8 v27 -9 s49 w4 v1 C2 sa v1 w5 -1 v14 -b v12 -1 v2b x1 E3 -3e w7 -1 w1 -1 w4 -1 ",
    "wf -1 wb -6 v3b -5 va -6 w1 v3 -1 v8 -2 v2 -2 v16 -1 v7 -1 v2 -1 v5 -1 z1 v9 -2 v2 -2 v3 ",
    "-2 w1 -6 v1 -5 v7 -2 v7 -3 v5 -b Ga -1 G1 -2 G1 -1 G26 -1 Ga -1 G1 -2 G1 -1 G4 -1 Ga -1 ",
    "G2 -8 G2 -1d x5a C1 x1 -1 x1 z1 A1 C2 -1e v48 -8 va -a6 v36 -2 v12 w14 -22 v45 -b va -6 ",
    "xd -13 s38 A1 D1 -6 sa -6 G14 -1c w1a z1 -2 wf -4 w10 D7 -b9 z3c -64 v53 -c v1 C7 -2 C1 ",
    "-2 C8 -1 C2 -1 C1e -1 C2 -2 Cc -9 Ca -46 A8 -2 A2e -2 Ab -1b y48 -8 y34 A2 y17 z1 y5 -d ",
    "D10 v39 -7 Ea -b6 G22 -e Ga -6 x9 -1 x2d -1 xe -a x1d -3 x20 -2 x16 -1 xe -49 y7 -1 y2 -1 ",
    "y2c -3 y1 -1 y2 -1 y9 -8 ya -6 z6 -1 z2 -1 z25 -1 z2 -1 z6 -7 za -136 z19 -7 E11 -1 E29 ",
    "-3 E1c G1 -55 C1 -f A32 -d A1 o36f v2a w1 -66 o63 vc -1 o4 v1 -b wc4 -a4c D63 -d q42f E1 ",
    "A9 E1d -a Gf9b -5 w247 -1ab9 G3a -6c6 r239 -7 v1f -1 va -4 v2 D4f -1 Da -6 v1e -2 v6 -a ",
    "v46 -a va -1 v7 -1 v15 -5 v13 -1b0 G3a -c6 z5b -65 s45 A6 -4 A1 s2f A9 -7 s11 -40 x1 y1 ",
    "A2 C1 -b C2 -e x17ed z5 A6 -8 x2f3 C1e3 -29 G1 C9 -22e7 D4 -1 D7 -1 D2 -1 r2 y11d D4 -f ",
    "E1 -1d A3 -2 E1 -e A4 -8 y18c -904 v6b -5 vd -3 v9 -7 va -2 v8 -f5c Gfa -6 G1b4 -4c D2e ",
    "-2 D17 -9 D74 -3c kf6 -a k27 -2 p1 kb4 wb D2 -15 n46 -7a E14 -c z14 -c m57 -9 o12 z7 -87 ",
    "k55 -1 k47 -1 k2 -2 k1 -2 k2 -2 k4 -1 kc -1 k1 -1 k4 m1 k2 -1 k41 -1 k4 -2 k8 -1 k7 -1 ",
    "k1c -1 k4 -1 k5 -1 k1 -3 k7 -1 k152 n2 -2 k122 o2 -2 k32 w28c -f w5 -1 wf -450 D1f -6 E6 ",
    "-d5 x7 -1 x11 -2 x7 -1 x2 -1 x5 -5 E3e -21 E1 -70 A2d -3 Ae -2 Aa -4 A2 -140 D1f -11 A3a ",
    "-5 A1 -1d0 E2a -d6 G2b -4 G1 -1e0 D7 -1 D4 -1 D2 -1 Df -1 vc5 -2 v10 -29 x4b A1 -4 xa -4 ",
    "x2 -311 z44 -4c A3d -c2 s4 -1 s1b -1 s2 -1 s1 -2 s1 -1 sa -1 s4 -1 s1 -1 s1 -6 s1 -4 s1 ",
    "-1 s1 -1 s1 -1 s3 -1 s2 -1 s1 -2 s1 -1 s1 -1 s1 -1 s1 -1 s1 -1 s2 -1 s1 -2 s4 -1 s7 -1 s4 ",
    "-1 s4 -1 s1 -1 sa -1 s11 -5 s3 -1 s5 -1 s11 -34 s2 -10e p2c -4 p64 -c rf -2 re v1 -1 rf ",
    "-1 rf v16 -a qb v2 C3 q1f z1 r1 q1 rb q1 r1 q1 r2 q1 r3 q1 r3 q5 r8 q1 r7 q1 ra s2 A1 C3 ",
    "r9 q1 r1 q2 r2 q1 ra q4 r2 q1 ra x12 C1 -38 r1a q1 r2 -d q22 r9 x1 -4 q9 -7 r2 -e y6 -9a ",
    "r21 vc w3 r6 v1 r46 v1 w2 r14 vc r25 v1 r5 v4 w5 vc r11 v7 w8 r3f v1 r1 v1 rb6 v1 r4 v2 ",
    "w1 r3e v2 s4 v7 w5 r18 v12 x1 v29 x1 v56 r5 s1 r10 s1 r3 s1 r1 s1 r1 s1 r1 s1 r3 s1 r6 s2 ",
    "r4 s1 r1 s2 r4 s1 rc v2 w2 rb v30 r46 va w1 x2 y2 A1 C2 -4 E1 D3 vd -3 v4 x3 y2 z1 A1 C2 ",
    "-3 r74 E3 -4 E5 v55 z4 E1 -6 Ac -4 D1 -f vc -4 v38 -8 va -6 v28 -8 v1e -2 C2 Ga -4 G2 -3e ",
    "yc C1 A3 w9 x6 y1 x8 y8 x1 y2 xc A1 xc y1 z3 xf yd z5 A1 C1 z4 C2 D1 z1 A1 z4 w5 xd y6 zb ",
    "C2 A6 C3 A2 za A6 w1 z2 A8 C1 D1 A3 y17 z19 A54 -c ze -2 A4 C1 E3 A3 D2 -3 A3 C4 E2 G1 -5 ",
    "G1 A6 C13 D4 E3 C7 D4 E3 G1 E1 C3 D3 G1 -7 E2 C7 D3 E2 G1 -2 G1 D8 E1 G1 -6 D7 E2 -7 C93 ",
    "-1 C37 G25 Ca -404 h2 ka6d7 C7 D2 -20 q1035 D4 E1 -6 rde -2 w1682 -e y1d31 -f F26e -9a2 ",
    "k21e -5e0 h2 C134b -5 E1060 -dc4e h2 -fffe h2 -fffe h2 -fffe h2 -fffe h2 -fffe h2 -fffe ",
    "h2 -fffe h2 -fffe h2 -fffe h2 -fffe h2 -1 k1 -1e k60 -80 mf0 -fe0e h20002"]

def ageRuns : Array Run := runs 1 ageText

/-- Whether the character had its meaning in the version at the position. -/
def isAsOldAs (position : Nat) (c : Char) : Bool :=
  (versions.findIdx? fun version => version.1 == nameAt ageRuns c.toNat).any (· ≤ position)

/-- The position of a version by its name: its number, or that without the point after a v. -/
def versionNamed? (name : String) : Option Nat :=
  versions.findIdx? fun version =>
    version.2 == name || String.ofList ('v' :: version.2.toList.filter (· != '.')) == name

end PromptKernel.Unicode
