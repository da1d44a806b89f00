import BroadcastFilter.Unicode.CodeSet

/-!
How characters take part in finding the ends of user-perceived characters, words and sentences.
-/

namespace BroadcastFilter.Unicode

/-- The roles at the ends of user-perceived characters. -/
def graphemeBreaks : List (List String × String) := [
  (["CR"],
    "D0"),
  (["Control", "CN"],
    "09111HYVX0D0XhE0alH0X-S021O6XHFXtqF0dGBjXKFXYZ03bcF7uhq5VZ0ZVdGZmF"),
  (["Extend", "EX"],
    "u0ZFeJ6e7XC10111110Y8AXGKG0Z56252113X30UQYRAXQ890O3181214XB2XR8XAN1VXN010474036A1T0XQ0102380
    90A1Q021XP041412230U130B1XP0441140K1M510XQ011138072A1U0XR010C090X8030XN012521371B1T0XQ021103
    21371B1S1XP110238090A1T0Y8040221080YH026C7Z2028B6Y91R01010XND14115A1X390Z63151121P142G3D0216
    0F0rV2zI3S2T1U1Y0116802A90XD210ZL1X20ZM2419062cR120XQ0161010276920XGUXH3XG942X68C1X0325XO011
    3014XO721aO21C16406031c6XVmC0c3X0Y-U2aD0Z0VnA5Z91zkK319X01YG1eG03040P150aN1QHD0X67PA10XC2XG0
    232120X40Y352121C080XF0XJ012215110XA180dE02040pvG0t1FGFhE1oT0d20aL4Xq621153X8240b51nT3Y14fT1
    YF3Y6AXH3ZR0XMEX9021A2XH32170XT2X4417XU0C1XK8108320YV2236020aT037L1XP11010C090E634Y302510201
    24210E1YL72210N0YH02510201111dB0236111R1YL72011ZA01027Z522314e3811dL0A340aG32140X09X85238095
    22XEC11iM61510YIL261111ZQ530111610Y813010gR1B1XK452N0bd506Ehc8B32Yk04XR6XWO0XV3YH0B1pbB1ap1X
    D2MmU4358726U3aK2XzRXM4XH80E0M41EXgG61G261114Z40b06hN0XT3lS3dU1t06ZD6YrG4uZX0YVa0dF"),
  (["L"],
    "ae0YVXcW0S"),
  (["LF"],
    "A0"),
  (["LV"],
    "XhW00R0R0R0R0R0R0R0R0R0R0R0R0R0R0R0R0R0R0R0R0R0R0R0R0R0R0R0R0R0R0R0R0R0R0R0R0R0R0R0R0R0R0R0R
    0R0R0R0R0R0R0R0R0R0R0R0R0R0R0R0R0R0R0R0R0R0R0R0R0R0R0R0R0R0R0R0R0R0R0R0R0R0R0R0R0R0R0R0R0R0R
    0R0R0R0R0R0R0R0R0R0R0R0R0R0R0R0R0R0R0R0R0R0R0R0R0R0R0R0R0R0R0R0R0R0R0R0R0R0R0R0R0R0R0R0R0R0R
    0R0R0R0R0R0R0R0R0R0R0R0R0R0R0R0R0R0R0R0R0R0R0R0R0R0R0R0R0R0R0R0R0R0R0R0R0R0R0R0R0R0R0R0R0R0R
    0R0R0R0R0R0R0R0R0R0R0R0R0R0R0R0R0R0R0R0R0R0R0R0R0R0R0R0R0R0R0R0R0R0R0R0R0R0R0R0R0R0R0R0R0R0R
    0R0R0R0R0R0R0R0R0R0R0R0R0R0R0R0R0R0R0R0R0R0R0R0R0R0R0R0R0R0R0R0R0R0R0R0R0R0R0R0R0R0R0R0R0R0R
    0R0R0R0R0R0R0R0R0R0R0R0R0R0R0R0R0R0R0R0R0R0R0R0R0R0R0R0R0R0R0R0R0R0R0R0R0R0R0R0R0R0R0R0R0R0R
    0R0R0R0R0R0R0R0R0R0R0R0R0R0R0R0R0R0R0R0R0R0R0R0R0R0R0R0R0R0R0R0R0R0R0R0R0R0R0R0R0R0R0R0R0R0R
    0R0R0R0R0R0R0R0R0R0R0R0R0R0R0R0R0R0R0R0R0R0R0R0R0R0R0R0R0R0R0R0R0"),
  (["LVT"],
    "XhW1Q1Q1Q1Q1Q1Q1Q1Q1Q1Q1Q1Q1Q1Q1Q1Q1Q1Q1Q1Q1Q1Q1Q1Q1Q1Q1Q1Q1Q1Q1Q1Q1Q1Q1Q1Q1Q1Q1Q1Q1Q1Q1Q1Q1
    Q1Q1Q1Q1Q1Q1Q1Q1Q1Q1Q1Q1Q1Q1Q1Q1Q1Q1Q1Q1Q1Q1Q1Q1Q1Q1Q1Q1Q1Q1Q1Q1Q1Q1Q1Q1Q1Q1Q1Q1Q1Q1Q1Q1Q1Q1
    Q1Q1Q1Q1Q1Q1Q1Q1Q1Q1Q1Q1Q1Q1Q1Q1Q1Q1Q1Q1Q1Q1Q1Q1Q1Q1Q1Q1Q1Q1Q1Q1Q1Q1Q1Q1Q1Q1Q1Q1Q1Q1Q1Q1Q1Q1
    Q1Q1Q1Q1Q1Q1Q1Q1Q1Q1Q1Q1Q1Q1Q1Q1Q1Q1Q1Q1Q1Q1Q1Q1Q1Q1Q1Q1Q1Q1Q1Q1Q1Q1Q1Q1Q1Q1Q1Q1Q1Q1Q1Q1Q1Q1
    Q1Q1Q1Q1Q1Q1Q1Q1Q1Q1Q1Q1Q1Q1Q1Q1Q1Q1Q1Q1Q1Q1Q1Q1Q1Q1Q1Q1Q1Q1Q1Q1Q1Q1Q1Q1Q1Q1Q1Q1Q1Q1Q1Q1Q1Q1
    Q1Q1Q1Q1Q1Q1Q1Q1Q1Q1Q1Q1Q1Q1Q1Q1Q1Q1Q1Q1Q1Q1Q1Q1Q1Q1Q1Q1Q1Q1Q1Q1Q1Q1Q1Q1Q1Q1Q1Q1Q1Q1Q1Q1Q1Q1
    Q1Q1Q1Q1Q1Q1Q1Q1Q1Q1Q1Q1Q1Q1Q1Q1Q1Q1Q1Q1Q1Q1Q1Q1Q1Q1Q1Q1Q1Q1Q1Q1Q1Q1Q1Q1Q1Q1Q1Q1Q1Q1Q1Q1Q1Q1
    Q1Q1Q1Q1Q1Q1Q1Q1Q1Q1Q1Q1Q1Q1Q1Q1Q1Q1Q1Q1Q1Q1Q1Q1Q1Q1Q1Q1Q1Q1Q1Q1Q1Q1Q1Q1Q1Q1Q1Q1Q1Q1Q1Q1Q1Q1
    Q1Q1Q1Q1Q1Q1Q1Q1Q1Q1Q1Q1Q1Q1Q1Q1Q1Q1Q1Q1Q1Q1Q1Q1Q1Q1Q1Q1Q1Q1Q1Q1Q"),
  (["Prepend", "PP"],
    "Xm05cN0XH0i01YG0XZB0YWxE0F0dK1XxR010dO0Y95rS0jR0"),
  (["Regional_Indicator", "RI"],
    "Zyl6P"),
  (["SpacingMark", "SM"],
    "Ye30XN0228311XI1XR16121XM0XQ2Y20XQ28011XL1XS06121ZI0113212XK2XT3XT1XQ02011XE0E1XR15212XL1YC1
    66J1XV0ZV0aA1XV0bH091P1XC0XvH07711gQ3224115d01XQ010L5aH0XP3Y00U041XV02210XL781bB0L0XYvB120YO
    1XIFaE0XG0XG14121ZF121O0aT02150dD1111110vWJ010ZV0XD241ZJ0O1XR0XG290E0YT231bC2V1XR0132121L1YL
    1F011Z728130ZB160111020dE16320ZH28110ZD011ZM0e5290dO4117010aE28340YK0T1XU0iN0E0ZA07020cL4411
    0gU1C0XG181mlA2Zn4XM"),
  (["T"],
    "aj8YNXnkBXG"),
  (["V"],
    "ah0Y7Xnm8MXbiS033"),
  (["ZWJ"],
    "eWD0")]

/-- The roles at the ends of words. -/
def wordBreaks : List (List String × String) := [
  (["ALetter", "LE"],
    "Y1P6PXF0A0405M1U1kV6X1ZG41123106012101J1YI1aA8b51X523101X810Z80XCXAX311Z210F171A220G01TTYOB0
    OX091405L409030NO7A5N15HX9XQXL30I079FF47212L16103330G0D112E1A085412L16111111V310J2G8121L1611
    1430I0F1N0B7212L16111430U112F0H015321331101131323BM0XK7121M1F30Q22021U047121M191430V111F1H81
    21X820G05282O55H3N181026fP0XV71X3R4eJX510502XA1gC132610132X8132X0132610132E1XO132Y2X5FGYL253
    pB2G1P5YA3A7HDIEHEC12bFYO742X1105Y5AUd1MdEXEH7XMTD1AXBQX3X92AX32A5XA22X931511305bVY0eL252X52
    5271010101U2XK1610321633254C5216ZK0D0GCZ5040291034601010131A235440HX8vDXJXuMd46331CX510502XN
    70GM9616161616161616YG0kL0XL1c8XA1YTHVxo0XaCY3XD2eC3FA1KXEGU2YFOc5211017LF12131MTXJEXHXU5301
    1BRAMPS7XES0XGX8N217aKA72C5252596161XP6ZITgz3CM4XGeu46C4XOZ1X1hAIXV2XLX8BZK41a6X4P6PY5U35252
    522X3B1P1I111E2DX2ZQY5XKeBS3XGXFVDT5X5AT2X34714XAaTIX34X34X78XJCA1E16111A1E16113XJCfM9LA7O51
    X918Y55201XB11302MAM9UY1I11ALAPY6XN61Y00F3121SXAS3SX371RRXLALAIDHZEY8XNXIDXIDX3X6R9MdQX961G2
    XRSA08LXAHXEKRMCXKXP120DXCX0OQX3T0208X230CXFE3L010X3H1OJ1XV610131E197XEX67212L16111430I0C4U9
    10201X510P010XCXKI3K2UXFK110bOXEX93X4XFK0XRXAD0g7XBZKXVV72027111NF010YU72X6G010S0AX770L0BXDJ
    0IY8c7X0V81X4H0XHTZG6111X5L0P5111VE0g7IF01C1X1ZS0YFyPZ6ZEHc3YoCZ0FXXFH5PZyQ5o6crPTXt2nO7UHYE
    HTIXFG3VK5IjGXCcJXVa0YA50Y2CY0110pWSZA5C3879bx6YK1Y6112021231B10161Y01327161R131410361gJ2O1O
    1U1O1U1O1U1O1U1O17XvKU65e5XTaIXCA6G0g1TIXBl4Rd4T20lF613111E1c4XRY370XbK31Q111020191310106040
    1010121110201010101011102316131310191G52141GpKP6P6P"),
  (["CR"],
    "D0"),
  (["Double_Quote", "DQ"],
    "X20"),
  (["Extend"],
    "u0ZFeJ6e7XC10111110Y8AXGKG0Z56252113X30UQYRAXQ890O3181214XB2XR8XAN1X0XM21H16A1T2XO016212290A
    1Q022XO014412230U130B2XO0171212K1M512XO016212272A1U0XR4321390X84XN016121371B1T2XO016121371B1
    F0C3XN116121390A1T2Y60451017I1XT026C7Z2028B6Y91R0101041XHJ115A1X390Z4JN342122633DB10A3rV2zI3
    S2T1U1Y0V90XD210ZL1X20ZMB4BcR4XP91S20XGUXH4XFGX68C2UCXODXGJaO21K406022c6XVmC0c3X0Y-U2aD0Z0Vn
    A5Z91zkK319X01YG1eG03040N440YJ1XIHQHD0X67PCXC3XFDX40Y3DC081XD2XI012215110X9451dC711pvG0t1FGF
    hE1oT0d20aL4Xq621153X8240b51nT3Y14fT1YF3Y6AXH3ZQ2XLEX9021A3XDA70XT2X4DG1XC0C2XGD8311YSB6020a
    TBL3XN116212290A12634Y381020131410E1YIHN0YHJdB628R1YIGZACZ5Ee0EdL511231011aD62630S9X8613809A
    XEFiL717YIL1DZQ530111610Y241114gR39110XG634N0bd506Ehc8HYk04XR6XWO01XM73YH0B1pbB1ap1XD2MmU435
    8726U3aK2XzRXM4XH80E0M41EXgG61G261114Z40b06hN0XT3lS3dU1t06ZD6YrG4uZX0YVa0dF"),
  (["ExtendNumLet", "EX"],
    "YV0d+F0F1J0XtkU1O2dF0"),
  (["Format", "FO"],
    "bD0XgI5M0c00XH0i01YG0ZvB0X-V1Q4XH419XtqF0dP2ac10F0ex2FXYZ03bcF7uhq60"),
  (["Hebrew_Letter", "HL"],
    "XkGQ43XzfA0191C1410111119"),
  (["Katakana", "KA"],
    "iXH4Z513YQ13dGFcGXE1YNXpWEXNXiYI3161110eV2XI0E3"),
  (["LF"],
    "A0"),
  (["MidLetter", "ML"],
    "XQ0ZS0sF0kN0aK0cnI0XtlB0Y10c40"),
  (["MidNum", "MN"],
    "XC0E0w20mA0a21YU0iB0cYB0XtkB030XR030bN0E0"),
  (["MidNumLet", "MB"],
    "XE0d-91A0XtnD0bK060"),
  (["Newline", "NL"],
    "B1ZO0dz21"),
  (["Numeric", "NU"],
    "XG9Xn6910a49c69iS9ZM9ZM9ZM9ZM9ZM9ZM9ZM9ZM9ZM9Z09ZM9Y69eM9Y69Xw69X69fC9a09b6969bM9YM9a6969XYk
    69r69X69c69M9YM9iM9quM9Xi69Ya6969uS9a09XS9aG9eM9gM9ZM9hM9Z696JYC9j69Z69qM9YM9dM9Y69j69mkM9Yf
    69YM9a69mM9txM9YsKXHYg09j69lM9dN9wL9aqM9"),
  (["Regional_Indicator", "RI"],
    "Zyl6P"),
  (["Single_Quote", "SQ"],
    "X70"),
  (["WSegSpace"],
    "X00boV0YhV612YK0Zz00"),
  (["ZWJ"],
    "eWD0")]

/-- The roles at the ends of sentences. -/
def sentenceBreaks : List (List String × String) := [
  (["ATerm", "AT"],
    "XE0d-L0XtnD0bR0"),
  (["CR"],
    "D0"),
  (["Close", "CL"],
    "X2042XH010T010XD0F0ZpU3XwT1YhR7P1A1XM1E1pP3T1XXG57DYF1V9iJLXV3X01XW2DE129O0I7jB92712XpeU1cN1
    SF21G5b91XH010T0101111XzuI2"),
  (["Extend", "EX"],
    "u0ZFeJ6e7XC10111110Y8AXGKG0Z56252113X30UQYRAXQ890O3181214XB2XR8XAN1X0XM21H16A1T2XO016212290A
    1Q022XO014412230U130B2XO0171212K1M512XO016212272A1U0XR4321390X84XN016121371B1T2XO016121371B1
    F0C3XN116121390A1T2Y60451017I1XT026C7Z2028B6Y91R0101041XHJ115A1X390Z4JN342122633DB10A3rV2zI3
    S2T1U1Y0V90XD210ZL1X20ZMB4BcR4XP91S20XGUXH4XFGX68C2UCXODXGJaO21K406022c6XVmC1c2X0Y-U2aD0Z0Vn
    A5Z91zkK319X01YG1eG03040N440YJ1XIHQHD0X67PCXC3XFDX40Y3DC081XD2XI012215110X9451dC711pvG0t1FGF
    hE1oT0d20aL4Xq621153X8240b51nT3Y14fT1YF3Y6AXH3ZQ2XLEX9021A3XDA70XT2X4DG1XC0C2XGD8311YSB6020a
    TBL3XN116212290A12634Y381020131410E1YIHN0YHJdB628R1YIGZACZ5Ee0EdL511231011aD62630S9X8613809A
    XEFiL717YIL1DZQ530111610Y241114gR39110XG634N0bd506Ehc8HYk04XR6XWO01XM73YH0B1pbB1ap1XD2MmU435
    8726U3aK2XzRXM4XH80E0M41EXgG61G261114Z40b06hN0XT3lS3dU1t06ZD6ubsLYVa0dF"),
  (["Format", "FO"],
    "bD0XgI5M0c00XH0i01YG0ZvB0X-S021Q4XH419XtqF0dP2ac10F0ex2FXYZ03bcF7uhq60"),
  (["LF"],
    "A0"),
  (["Lower", "LO"],
    "Z1PXF0A040X4N1710101010101010101010101010101010101010101010101010101011101010101010101110101
    01010101010101010101010101010101010101010201012201020314020322020101020111020301021226020201
    01010101010101110101010101010101120103010101010101010101010101010101010101010101010101010101
    01016202110401010101Y41X371U4aC0103023I0RX21132101010101010101010101014102021XJXF10101010101
    01010101010101010101010901010101010101010101010101010101010101010101010101010201010101010111
    01010101010101010101010101010101010101010101010101010101010101010101010101010101010101010101
    010XGX8YxJ0tR5Ya2810ZLbVY1010101010101010101010101010101010101010101010101010101010101010101
    01010101010101010101010101010101010101010101010101010101010101010101010101010101018101010101
    0101010101010101010101010101010101010101010101010101010101010101010101010101010101010101885A
    78785A7878D2787878411603211832187A211ZP0D0GCZD03130R04040218340X1F40wBPXw6XF1031101010401117
    30101010101010101010101010101010101010101010101010101010101010101010101010101010101010101010
    10101011701040CX51050+eJ010101010101010101010101010101010101010101010J0101010101010101010101
    01012a50101010101012101010101010101010101010101010101010101010101010101010101010191010201010
    10104010201210101010101010101010505010101010101010401020301010101010M21012vLXA1D6YFpw06C4XX9
    PXcDX7a8X3aRA1E1611k30221X918Xe5XIZTLYvQVri0VviQPQ61HQPQ310161AQPQPQPQPQPQPQPQPQRSO15QO15QO1
    5QO15QO1510XvK91J65e5XTYbKX1"),
  (["Numeric", "NU"],
    "XG9Xn6911a39c69iS9ZM9ZM9ZM9ZM9ZM9ZM9ZM9ZM9ZM9Z09ZM9Y69eM9Y69Xw69X69fC9a09b6969bM9YM9a6969XYk
    69r69X69c69M9YM9iM9quM9Xi69Ya6969uS9a09XS9aG9eM9gM9ZM9hM9Z696JYC9j69Z69qM9YM9dM9Y69j69mkM9Yf
    69YM9a69mM9txM9YsKXHYg09j69lM9dN9wL9aqM9"),
  (["OLetter", "LE"],
    "jR043cG0X466BQ010a50l40ZMQ44XCXAX311Z210F171A220G01TTYOB0OX091405L409030NO7A5N15HX9XQXL30I07
    9FF47212L16103330G0D112E1A085412L16111111V310J2G8121L16111430I0F1N0B7212L16111430U112F0H0153
    21331101131323BM0XK7121M1F30Q22021U047121M191430V111F1H8121X820G05282O55H3N181026XQXF11C6XQ1
    10141N101911902410L3X00XV71X3R4ZJXAK0G5433031724CC0Y1XA2gB132610132X8132X0132610132E1XO132Y2
    X5FZHpB2G1P5YA3A7HDIEHEC12FXJX3040Y3YO742X1105Y5AUXHT24BXB4PXMM9XKYI0YTXEH7XMTD1AXBQX3X92AX3
    IXA22X93151130XXQ3Y7223Yz7XN70GM9616161616161616YG0kL2P874244YL621YP135XA1YTHVXGFm0cjVY0rqCY
    3XD2eC3FA1Y20G0X0YFX78Z8060Z703612131MTXJEXHXU53011BRAMPS7XES0G419A41X8N217KM303XH1031242010
    O22A72C525259616aHX2Tgz3CM4XGee4hD2Z9Y30191C141011111ZBX1hAIXV2XLX8BZK41a6Z9XN2U35252522X3B1
    P1I111E2DX2ZQY5XKeBS3XGXFVDT5X5AT2X34714ZQYDZ2X78XJYSXJCfM9LA7P1ZT5201XB11302MAM9UY1I11ALAPY
    6XN61Y00F3121SXAS3SX371RRXLALAIDHZEY8bNX3X65V0eGX961G2XRSA08LXAHXEKRMCXKXP120DXCX0OQX3T0208X
    230CXFE3L010X3H1OJ1XV610131E197XEX67212L16111430I0C4U910201X510P010XCXKI3K2UXFK110bOXEX93X4X
    FK0XRXAD0Y7QX56bPXBcJ72027111NF010YU72X6G010S0AX770L0BXDJ0IY8c7X0V81X4H0XHTZG6111X5L0P5111VE
    0g7IF01C1X1ZS0YFyPZ6ZEHc3YoCZ0FXXFH5PZyQ5o6crPTXt2nO7UHYEHTIXFG3VK5IjGXCiJYA50Y2CY0110Sb-N8X
    cLX99et7316111f2F0T220E38iBYe4ZA5C3879epG0lLXCA6G0g1TIXBl4Rd4T20lF613111E1c4a60XbK31Q1110201
    913101060401010121110201010101011102316131310191G52141Gag4XfsVX0aXP6cT2bq1EdfGFpDYj2mTXl2awA
    5aYV"),
  (["SContinue", "SC"],
    "XC1C0Xf20bE1lA0aW9050YWA1Z-C0XpmE110T1T13020A0b81C0Y90"),
  (["STerm", "ST"],
    "X10T0Xg90aJ2bK0XB2dM0XT01031f51Xt41uM041u50c61cC050fQ1h23b21A121T2bR1Y11zS192Zl40D0M1jD0zdS0
    eE1d3030hU1YM1YV0aO1aJ2aG1dP0qpA1b90T0Y10YtK1XdT4XC3bT1ZL3ZV2a1160G1YO111ZC0fA1ZL1hL15EZ91dP
    2m5010dR1YN1j41rK1YA1ov91a50Y11B0n91f80pm60dl80"),
  (["Sep", "SE"],
    "a50dz21"),
  (["Sp", "SP"],
    "9011J0ZV0bkV0YhVAX40XF0Zz00"),
  (["Upper", "UP"],
    "Y1PZ5M16X10101010101010101010101010101010101010101010101010101010201010101010101020101010101
    01010101010101010101010101010101010111010311011122311123111101011102011121011307111111010101
    01010101020101010101010101021101210101010101010101010101010101010101010101010101010101010107
    111201310101010f10103080601210111G18X30223010101010101010101010105020112XIXG0101010101010101
    01010101010101010901010101010101010101010101010101010101010101010101010111010101010102010101
    010101010101010101010101010101010101010101010101010101010101010101010101010101010101010102X5
    Yw9X51050sIYLYaJ0hM0101010101010101010101010101010101010101010101010101010101010101010101010
    10101010101010101010101010101010101010101010101010101010101010101010101010109010101010101010
    10101010101010101010101010101010101010101010101010101010101010101010101010101010109785A78785
    B010101087O7878784B4B3C4B4e5040322220346010101323A150QFJ0vIPXvGXFXG0122010101310208210101010
    10101010101010101010101010101010101010101010101010101010101010101010101010101010101010101080
    1040+gD010101010101010101010101010101010101010101010J010101010101010101010101010a70101010101
    01030101010101010101010101010101010101010101010101010101010101010A01011101010104010201030101
    0101010101010101414101010101010101310113050101010O0rvBPXc5X7a8X3aSA1E1611XtAXIaTLYvQVri0Vvj0
    PQPQPQ01120212317QPQ1132716R113141036RPQPQPQPQPQPUOX1OX1OX1OX1OX10afLX1YWEP6P6P")]

end BroadcastFilter.Unicode
