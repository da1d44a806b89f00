import BroadcastFilter.Unicode.CodeSet

/-!
Simple case folding. Two characters are variants of each other when they fold to the same character.
The pairs of variants are kept as runs: every `stride`-th code point from `first` on has the variant
`shift` places away.
-/

namespace BroadcastFilter.Unicode

/-- A run of characters whose variants lie at one distance. -/
structure FoldRun where
  first : Nat
  count : Nat
  stride : Nat
  shift : Int

namespace FoldRun

/-- Runs from their numbers: distance from the start of the run before, count less one, stride, and
the shift with its sign in the lowest bit. -/
def ofNumbers (start : Nat) : List Nat → List FoldRun
  | ahead :: more :: stride :: shift :: rest =>
    let distance : Int := if shift % 2 = 0 then shift / 2 else -((shift + 1) / 2)
    ⟨start + ahead, more + 1, stride, distance⟩ :: ofNumbers (start + ahead) rest
  | _ => []

/-- All runs, packed. -/
def packed : String :=
    "Y1P1Y0A01mjU801oOEP1XVA01mhU801mOY201XkE001XmEBM1Y0501mcCJ61Y0701kxU1M1XV501maCJ61XV701dI1N2
    21N21XH222122167221721GM221M21XD01dH12221221501oN001mN101i6101j411221121301iS10121011111iQ20
    121011201aU101iK101iM10121011101iQ101iU101c2101j6101j210121011101g6101Ypa2101j6101jA101e4101
    jC12221221501jK10121011101jK30121011101jK10121011111jI21221121301jM1012101130121011201ZG5112
    0014111110131112001411111013111200141111101317221721F01aT18221821I11200141111101310121011101
    c1101ZF1J221J21X701e328221821N01rYM10121011101g5101rYG111rZU20121011101i5101aA101aE142214219
    01rXU101rXO101rXS101j3101iR211iP301iJ201iL101YoqU401iP101YoqM201iT101YosE101YooG101Yoq8201j1
    101j5101Yoq8101q-E101Yoq2301j5201q-Q101j9301jB801q+E301jJ201Yoq6101jJ401YooK101jJ101a9111jH2
    01aD601jLB01YonA101Yon4b701b8001d8001kdIXB122112150121011421e4401d8701YC221YA401a0211ZU201ka
    61G1Y0101ZS301c0301ZI001bO101b7001kYA101bC201XkD401ZC101b0201XU081Y0301YU301ktQ301YB121Y9301
    kZ61G1XV101XS301a0301XI001ZO101d7001kWA101ZC201XmD401XC101Z0101XT0012181XV0011301U301krQ301Z
    V111ZT201G101ZR001XR101ZH001XH001Y6401YT001T101ZB001XB101F1B221B21N01bB001ZB101aV001YV101E10
    1d7101bN001ZN001Y5101bV001ZV20121011101D10121011221e33F1b0GV1Y0201icS201icQA01ic8311ic4101ic
    6801ibO6V1XV201iaS201iaQA01ia8311ia4101ia6801iZO6F1aVGG221G21101iYA101iY8X7Q221Q21XL01U16221
    621D01T1XF221XF21Z0X51Z0XGX51YVYvVX51kc0X701kc0601kc03XA1by0XD21by0r3YF1Yhz0YG51G851FYa801ic
    R001iaR101icP001iaP101ic7001ia7111ic3011ia31012101ic5001ia50011101ibN001iZN101iY9001iY7101Ya
    y4001Yay6101210116XA1bxVXD21bxVbS01YbW8401dkCH01YbZGZIYA221YA21YV01ZM101ZKXQ01ZL001ZJ301kxT2
    XF221XF21YV71G871F851G851F871G871F871G871F851G851F932G832F771G871F811aK231bC411c8211e0211d02
    11dS471G871F871G871F871G871F811G301I511F211aJ201H201kdH001kY9001kW9501I531bB401H411G301ka551
    1F211c7611G301kZ5201E311F211cV201D701I511dV211dR201HfA01ktP001krP401mjT001mhT101mcB001maB701
    XOS01XNIF1X0GF1VJ0121011vIP1XKQP1XJXvGXF1Z0XGXF1YVXG0121011101q-D101dkB101q+D101rYL101rYF122
    21221501rXN101q-P101rXT101rXR2012101120121011811rZT2XH221XH21ZA122112160121011DX51kbVX701kbV
    601kbV+eJM221M21901Yay3101Yay5XLD221D21b16221621FU221U21Y61221121301YbW714221421C0121011101Y
    ooF31221121301Z029221921J01Yoq7101YoqT101YoqL101Yoq1101Yoq7201Yon3101YooJ101Yon9101Xw0172217
    21F01YV101Yoq5101YbZF11221121301YosD101210113012101152221221501Ypa1P0121011wT01XvVTYF1YhyVpy
    L0121011XWRP1Y0X0P1XVXbVX71YGX8X71YFa8X31YGX8X31YFaOA1YECE1YEG61YE811YE3A1YDCE1YDG61YD811YDX
    s5XI1a0Y0XI1ZVaGL1Y0X0L1XVYvGV1Y0X0V1XVri0V1Y0X0V1XV+r0X11Y4X2X11Y3"

def all : List FoldRun := ofNumbers 0 (CodeSet.packedNumbers 0 packed.toList)

/-- Whether the run lists a variant of `c`. -/
def covers (run : FoldRun) (c : Nat) : Bool :=
  run.first ≤ c && c ≤ run.first + (run.count - 1) * run.stride && (c - run.first) % run.stride = 0

/-- The code point `shift` places from `c`. -/
def variant (run : FoldRun) (c : Nat) : Nat := (c + run.shift).toNat

/-- The variants that a run lists for the members of a set. -/
def variantsIn (run : FoldRun) (s : CodeSet) : List Nat :=
  (List.range run.count).filterMap fun i =>
    let c := run.first + i * run.stride
    if s.contains c then some (run.variant c) else none

end FoldRun

namespace CodeSet

/-- The set with every variant of every member. -/
def foldCase (s : CodeSet) : CodeSet :=
  s.union (ofRanges ((FoldRun.all.flatMap fun run => run.variantsIn s).map fun c => (c, c)))

/-- A character and its variants. -/
def caseVariants (c : Nat) : CodeSet :=
  let variants := (FoldRun.all.filter (·.covers c)).map (·.variant c)
  ofRanges ((c :: variants).map fun v => (v, v))

/-- The set with both cases of every Latin letter of the first 128 characters in it. -/
def foldAsciiCase (s : CodeSet) : CodeSet :=
  let upper := s.inter (range 65 90)
  let lower := s.inter (range 97 122)
  unions [s, ⟨upper.ranges.map fun r => (r.1 + 32, r.2 + 32)⟩,
    ⟨lower.ranges.map fun r => (r.1 - 32, r.2 - 32)⟩]

end CodeSet

end BroadcastFilter.Unicode
