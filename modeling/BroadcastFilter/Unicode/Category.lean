import BroadcastFilter.Unicode.CodeSet

/-!
General categories: each one's names and its members. A group of categories is the union of its
members; the codes of surrogates are no characters and have no row.
-/

namespace BroadcastFilter.Unicode

/-- The general categories. -/
def categories : List (List String × String) := [
  (["Cc", "Control", "cntrl"],
    "0VYVX0"),
  (["Cf", "Format"],
    "bD0XgI5M0c00XH0i01YG0ZvB0X-S4Q4XH419XtqF0dP2ac10F0ex2FXYZ03bcF7uhq60UYV"),
  (["Cn", "Unassigned"],
    "xO1637010K0iD0X61XI130XN7R36AeE0XS1Z5DXR1XH1F0S110B4V024dD08121M0701241912147132051P1306321M
    07020202110532132164016H9309030M0702051A030311E41C670308121M0702051912136332051I920623042201
    0222232C3523041151DL4D030N0G190304620311141A6M030N0A051903046252041A03BD030XJ03063G1Q030I2O0
    90117213601085A13BXQ3TX4201050O010N1501070A14VY80X43X70X40F0DX4c601411hP041701041X9041X10417
    01041F0XP041Y31X02Q5YM161qT2YP6M8O8KBD0302BYU1A5A5Q5YP6XB4Y69V0C3C312XA15AXC3Q5B2XU1Y10T1B5A
    5E1VXGYD0b67XS2F2XU4XB1B7XB4mM161X616180101010V1XL0F0E160J13090Z50C1R0D2X1EX1EaC3qQLBKXuK1X0
    0gT4XD01411XO62DO87070707070707070ZUX1Q0YPBcMPYG0YM1Z74XB0YU0YM8XG0ypD2XN8gSJbO7cE120108KXR2
    A5XO7Y67C5ZKAU2YE0B3X10XN8E1A1Z7NS96161687070XS3ZU1A5gz4BN3XH3epE1ZAX57B54Q050102020ZTFjT1XM
    61VXA5XJ0J04350a7110bU261616132707951C0Q0J020F1EX1ZR433XD2YO0D21XEXEa1T2XHES3X48U4XB4U0X53EX
    9aU1A5X43X43X87XKAC0F07020B0F07022XKBfN8M98N60XA09Y46110XC02211N0Y879XFJ024X12R41XVXO3K1XI02
    48030T133A696Y0VX73C8XM2T1R4Q64B7YFY9XMXJCXJ6XE7A5X62T72cFV0XA0312F3XMXC7XALQX5SJN8YE3X48Y49
    11P6A5XL0I7X78Z00KAI0XFXT701040F0B5XR4A5408121M0702050A12131151471725AA01110X60A0111040A0272
    SYS05TY87Ab5XM1X6X1Y5AA5DIXQ5A5KRR1F3NbOXSZ3YJB81118020U021C8AY581XE1BQY87YJCY96AbLX2DA590XD
    0E9T2X01M0EY87020XC2102097A56020X502066AfLP6H0X92TYK1EXICyRZ5ZF05Ac4YoBZ3CXYM9ZyR4o7crOXQXs5
    nP6V0A3YH0A5U169Y69A070L4JjFXQc5YRZ4YB3XP6HXV5A2Db-O7XcMX8Aet6407020f3E1S311D47iCYe3ZB4D296A
    18ZwRdQ5jKYBXE1N8ZKXRdM9X71c2KY6ZPKBKBYN8Pa6YL0Y7021112140C01070Y10418070S040501270gK1f41rUE
    50FXYFV56cK70H1702054XUX01ZFXD2E1A32fVVGXQ41kFXAcLXB31kV704020F0c51GX8YC3A32uGY4YBXTc140R020
    1110A040101513101010302011101010101020114070404010A0H43050HXJ2eDXC3Z4BF1F0F0X59bEXNTCXC3962D
    6aP+O3H2D2ZN3YV5C31EC3XO7A5X87U1C32XTgKBE1D2A4XO6F1B596aJ0Z6XW5Xft0VaXQ5cU1bq2DdfHEpEYj1mUXl
    1awB4aZ0rtYG1TZ0ZVdGX-mFX--U1X--U1"),
  (["Co", "Private_Use"],
    "XuW0cdVyXu0X--T2X--T"),
  (["Ll", "Lowercase_Letter"],
    "Z1PXQ0X9N17101010101010101010101010101010101010101010101010101010111010101010101011101010101
    01010101010101010101010101010101010102010122010203140203220201010201110203010212260202010101
    01010101011101010101010101011201030101010101010101010101010101010101010101010101010101010101
    6202110401010101Y42Pc10103032I0RX21132101010101010101010101014102021XJXF10101010101010101010
    10101010101010901010101010101010101010101010101010101010101010101010201010101010111010101010
    10101010101010101010101010101010101010101010101010101010101010101010101010101010101010XGX8Yw
    7XA22tO5Ya2810ZLXBXVC1X1Z6010101010101010101010101010101010101010101010101010101010101010101
    01010101010101010101010101010101010101010101010101010101010101010101010101010101018101010101
    0101010101010101010101010101010101010101010101010101010101010101010101010101010101010101885A
    78785A7878D2787878411603211832187A211eI03130R04040218340XL0YrBXF1031101010401115501010101010
    10101010101010101010101010101010101010101010101010101010101010101010101010101010101010117010
    40CX51050+eJ010101010101010101010101010101010101010101010J010101010101010101010101010a701010
    10101012101010101010101010101010101010101010101010101010101010101010101710102010101010401020
    1210101010101010101010505010101010101010401020301010101010Q030vLXA587YFpw06C4XX9PXcDX7a8X3aR
    A1E1611Xu3XIZTLYvQVri0VviQPQ61HQPQ310161AQPQPQPQPQPQPQPQPQRSO15QO15QO15QO15QO1510XvK91J65YlN
    X1"),
  (["Lm", "Modifier_Letter"],
    "rGH4BE47010a5050kU0d60b41eD140V09030b00b70XcK0ZV0nL0XsQ0ZB0p30kG5bEXUD0X2X4rH0D0GCY+V1dH0bV0
    kL0XB450Z11YT2xuM0Xd25eE0ZI0S1ZP8YG0N0Z9231kL0M0a90ZC0L1Z7390rW60XD1X-051X918XiJ0X00tkG3lS2X
    81n6CY0110mWC31611iXHXTc96zD0XYV0"),
  (["Lo", "Other_Letter"],
    "bA0F0e0043cG1vQQ43XDV19X311Z210O1A220G01TTYOB0OX0LLXAO7A5N15HX8XRXL30I079GE47212L16103330G0D
    112E1A085412L16111111V310J2G8121L16111430I0F1N0B7212L16111430U112F0H015321331101131323BM0XK7
    121M1F30Q22021U047121M191430V111F1H8121X820G05282O55H3N181026XQXF11C5XR110141N1019119024N3X0
    0XV71X3R4ZJXAK0G5433031724CC0ZHg8132610132X8132X0132610132E1XO132Y2X5FZHpB2G1P5YA677HDIEHEC1
    2FXJX80Y3X21XK742X1105Y5AUXHT24BXB4PXMM9XKbGXEH7XMTD1AXBQX3X92ATZH3151130XXQ3Y-NXNOM96161616
    16161616n70XL04YL801YP405XA1YTHVXGFm0cjVY0qmK1XZMY3X78eB4FA1Y20XHY5b90Z703612131MTXJEXHXU530
    11BRAMPS7XEXD428A41X8N217KF15303XH1031242010O13A70E525259616aHX2Tgz3CM4XGee4hD2Z9Y30191C1410
    11111ZBX1hAIXV2XLX8BZK41a6Z991XC2U35252522X3B1P1I111E2DX2ZQi5S3XGXFVDJ176X5AT2X347a0YDZ2X78X
    JYSXJCfM9LA7aO5201XB11302MAM9UY1I11ALAPY6XN61Y00F3121SXAS3SX371RRXLALAIDHZEY8bNX3X6310fGX961
    G2XRSA08LXAHXEKRMCXKXP120DXCX0OQX3T0208X230CXFE3L010X3H1OJ1XV610131E197XEX67212L16111430I0C4
    U910201X510P010XCXKI3K2UXFK110bOXEX93X4XFK0XRXAD0Y7QX56bPXBcJ72027111NF010YU72X6G010S0AX770L
    0BXDJ0IY8c7X0V81X4H0XHTZG6111X5L0P5111VE0g7IF01C1X1ZS0YFyPd6c3YoCZ0FXXFH5PZyQ5o6crPTXt2nO7UH
    YEHTIXFXJK5IjJX7iLYA50bFb-N8XcLX99etNf2F0T220E38iBYe4ZA5C3879epG0lLXCX10g1TIXBl4Qd5T20lF6131
    11E1c4XfR31Q1110201913101060401010121110201010101011102316131310191G52141Gag4XfsVX0aXP6cT2bq
    1EdfGFpDYj2mTXl2awA5aYV"),
  (["Lt", "Titlecase_Letter"],
    "k502020X60diL78787C0F0XF0"),
  (["Lu", "Uppercase_Letter"],
    "Y1PZ5M16X10101010101010101010101010101010101010101010101010101010201010101010101020101010101
    01010101010101010101010101010101010111010311011122311123111101011102011121011307020202010101
    01010101020101010101010101020201210101010101010101010101010101010101010101010101010101010107
    111201310101010f10103080601210111G18X30223010101010101010101010105020112XIXG0101010101010101
    01010101010101010901010101010101010101010101010101010101010101010101010111010101010102010101
    010101010101010101010101010101010101010101010101010101010101010101010101010101010101010102X5
    Yw9X51050sIYLYaJ06XA22g001010101010101010101010101010101010101010101010101010101010101010101
    01010101010101010101010101010101010101010101010101010101010101010101010101010101090101010101
    0101010101010101010101010101010101010101010101010101010101010101010101010101010101010109785A
    78785B010101087Y83C3C3C4B3e6040322220346010101323A150XT0YpSXFXG01220101013102082101010101010
    10101010101010101010101010101010101010101010101010101010101010101010101010101010101010801040
    +gD010101010101010101010101010101010101010101010J010101010101010101010101010a701010101010103
    0101010101010101010101010101010101010101010101010101010101010A010111010101040102010301010101
    010101010101414101010101010101310113050101010O0rvBPXc5X7a8X3aSA1E1611XtAXIaTLYvQVri0Vvj0PQPQ
    PQ01120212317QPQ1132716R113141036RPQPQPQPQPQPUOX1OX1OX1OX1OX10afLX1"),
  (["Mc", "Spacing_Mark"],
    "Ye30XN0228311XI1XQ26121A0XB0XQ2Y20XQ28011XL1XQ0106121A0Z61113212A0X92XT3XT1XQ014211191S0E1XQ
    25212A0XA1YB267I1gA1XV0bB1406021P1A226L12520A2XpO0U0a107711gQ3224115d01XQ010901185aH0XG05014
    11XT0U04120XS0221031XG781bB0L0avM1z-J120YO1XIFaE1XF0XG14122ZE121O0XD010ZD02150dD1111110vWJ01
    0ZV0XD241ZJ0O1XR0XG291D0YT23110bA2V1XQ113212290A1YK27020131110Z528130ZA2601320dD26320ZH28110
    ZD01160Z701140e5290dN511402010aE28340YK0T1XU0iN0E0ZA07020cL44110gU1C0XG18110ml82Zn4XMZ81uhJ1
    65"),
  (["Me", "Enclosing_Mark"],
    "Xa81bnK0XmU312XXiB2"),
  (["Mn", "Nonspacing_Mark"],
    "u0ZFeJ4e9XC10111110Y8AXGKG0Z56252113X30UQYRAXQ890O3181214XB2XR8XAN1VXN010474036A1T0XQ04380K1
    Q021XP041412230U130B1XP0441140K1M510XQ020138071B1U0XT0C0XI030XN012521371B1T0XQ0206051K1S1XP1
    4380K1T0Y807210YQ026C7Z2028B6Y91R01010XND14115A1X390Z63151121P142G3D02160F0rV2zI2T1U1U1Y0116
    802A90XD210ZL1X20ZM2419062cR120XQ0161010276920XGD1FXH3XG0141050X88C1X032112XO0113012XQ721aO2
    1C16406031c6XVsGC403BY-U2aD0Z0VnA3ZB1zkK049X01YG1eG03040P150aN1QHD0X67PAXE2XG02321X70Y352121
    C080XF0XJ012215110XA180dE02040pvG0t1FGF+D0d20aL4Xq621153X8240b51nT3Y14fT1YF3Y6AXH3ZR0XMEX902
    1A2XH32170XT2X4417XU0C1XK8A320YV220116020aT037L1XP130X5634Y65D01010E1YL72210N0YK5104111dE361
    11R1YL72011ZA0102510Z50102314e3811e011040aG32140X09X8523809522XEC11iM61510YIL261111ZQ5301116
    10Y813010gR1B1XK45010N0bd506Ehc8B32Yk04XR6XWO0XV3YH0pbO1ap1XD2Mn02H726U3aK2XzRXM4XH80E0M41EX
    gG61G261114Z40b06hN0XT3lS3dU1t06ZD6ubzLdF"),
  (["Nd", "Decimal_Number", "digit"],
    "XG9Xn69a69c69iS9ZM9ZM9ZM9ZM9ZM9ZM9ZM9ZM9ZM9Z09ZM9Y69eM9Y69Xw69X69fC9a09b6969bM9YM9a6969XYk69
    r69X69c69M9YM9iM9quM9Xi69Ya6969uS9a09XS9aG9eM9gM9ZM9hM9Z696JYC9j69Z69qM9YM9dM9Y69j69mkM9Yf69
    YM9a69mM9txM9YsKXHYg09j69lM9dN9wL9aqM9"),
  (["Nl", "Letter_Number"],
    "btE2YpFX223ZpU0P8E2zrB9soGXKkC080a64eXAZE"),
  (["No", "Other_Number"],
    "bI15022YfL5hO5ZO2a56cP6H8jH9XXLJXZJ9l00XqL03569c6FX90sMXRYELpMTXh90XaK3aA9U71EX09X7EzhG5scHX
    CY13H1gLQX43XfK7P6X78YB4M5b012F2XDY08XK1U2YB4Z87O7X96gA5h0UaU9XA3ZG6a6JhRJXg51jE8x7IwJKoy66u
    UMvX9JCJZCObgE8z1XQ1213YCXC1E+2C"),
  (["Pc", "Connector_Punctuation"],
    "YV0d+V1J0XtkU1O2dF0"),
  (["Pd", "Dash_Punctuation"],
    "XD0XgS0XJ0Zo10XW50YW95Zm1020V140S0jU0J0ZF0XpiG1X50A0b90Zp00fU0"),
  (["Pe", "Close_Punctuation"],
    "X90XJ0V0ZrT010XwU0Yj90XN0F0pQ010U0XXU0101010101010YG0X0010101010iK010101010101010101010Y0010
    X10XX50101010XC0101010jC0101010103010101021XpeU0cP0T01010101010101030H01010bA0XJ0V02020"),
  (["Pf", "Final_Punctuation"],
    "bR0dwT030S0Zk80104020F030"),
  (["Pi", "Initial_Punctuation"],
    "bB0dxC02120P0Zk80104020F030"),
  (["Po", "Other_Punctuation"],
    "X1212201011A131R0Y4050E170rU080kI5X90XM02020XC1K111D012YA3Z60XBDd92XMEV0e51A0aC0ZO0ZP0i60C0h
    F0YQ0A1b8E10ZG0YA441ZF5bB0p48u50ZS2Y71aT212X5513fP1cO1a0615b01A6S2ZS3XR4XU1Y07B0w21878823223
    A1019ZaQ311ZG0aF1422028111021A41923101C22jC2XP0bT0zW21eD2Z30A0ZJ5hS3YM1X8210XH1XF0Z1CG1ZS3ZU
    1G1dP0qn4620M0K1233213726011aL212201011A131R0X4021iQ2qS0XG0iU0t70c70V0eG8X60ZG6Y26YP3zO4XC3b
    T6ZD113ZU3XG1YF340D012YO5ZB0fA111ZI4A110Z80dQMZ92SCYC0a22dS0e82aR0YS7YJ214YT9cN0YV4XA1q51YAC
    bF0XZG4YxS1kpR1a50Y1480n82f73g70pbS0dl74YxJ0wU1"),
  (["Ps", "Open_Punctuation"],
    "X80XI0V0ZrU010XwU0YhU030X60XN0F0pQ010U0XXU0101010101010YG0X0010101010iK010101010101010101010
    Y0010X10XX50101010P0I0101010jC0101010103010101020Xpf10cN0T01010101010101030H01010bA0XI0V0302
    0"),
  (["Sc", "Currency_Symbol"],
    "X40ZT3Xd90ZR0lI1lI170dL0e70o50YiR0Yc4X0XXxN0rk30ZC0aQ0cR131d-M3XmuU0YjG0"),
  (["Sk", "Modifier_Symbol"],
    "YU010Y70604030m93CD56101GZL0E1Xe20bvK012B2D2D2D1aaS1zp3M91Z71+G0E1qY6GxR010b20XzWN4"),
  (["Sm", "Math_Symbol"],
    "XB0G2XT010XD040X50V0tU0mF2cnR0D0X72D2aB0X7460Y445140202070V12010VeBX01YQ0UOX85kL090XM7ZF0gG4
    2UAFe0a2MXU4V2e1XGK25Xp+S0vO012b40G2XT010a3063Zj11XofH0P0V0P0V0P0V0P0V0P0bvC1"),
  (["So", "Other_Symbol"],
    "b60204010+H0eA1ZV1cE0A0J1dN0m30hL0a2510a40cF0X90i72F01225K01010a57151153c51tG9sJ0sI0aTX1h199
    8Xi311311A0116510101040B1E01110XQ194231111161U21101UeC74J262YG1TPX76Y7MAYHYDMbM181XL8ZE1dNXC
    XBY0dVm0XFL16X62V1Z8d55h51XEP1YOCcLQF40D1C0L161gG149X0X590GUBT80FVAX6FfVck0XVrqGXMx13A110nT2
    qs6FZV0XD2l403041D1fP8XPG221C30XFXCXpQ1oF0ZZM0YaL74GowA350qgM0Zx3dFGjJaSZJXSdLAX62XR52M17T4X
    SLY130bQYMXb9lVXN3XI71D11Xs80YwS0a10sHXB4Z3CE2E1E1X4Nb0XOSDXB4871E5aQdQ5sN4G3C3ZM4YU6B40FB4X
    N896X78T2B41XUgJCD2C395XN7E2A687aI1YR"),
  (["Zl", "Line_Separator"],
    "eX80"),
  (["Zp", "Paragraph_Separator"],
    "eX90"),
  (["Zs", "Space_Separator"],
    "X00ZV0bkV0YhVAX40XF0Zz00")]

/-- Names for several categories at once, with the short names of the members. -/
def categoryGroups : List (List String × List String) := [
  (["C", "Other"], ["Cc", "Cf", "Cn", "Co"]),
  (["L", "Letter"], ["Ll", "Lm", "Lo", "Lt", "Lu"]),
  (["LC", "Cased_Letter"], ["Ll", "Lt", "Lu"]),
  (["M", "Mark", "Combining_Mark"], ["Mc", "Me", "Mn"]),
  (["N", "Number"], ["Nd", "Nl", "No"]),
  (["P", "Punctuation", "punct"], ["Pc", "Pd", "Pe", "Pf", "Pi", "Po", "Ps"]),
  (["S", "Symbol"], ["Sc", "Sk", "Sm", "So"]),
  (["Z", "Separator"], ["Zl", "Zp", "Zs"])]

end BroadcastFilter.Unicode
