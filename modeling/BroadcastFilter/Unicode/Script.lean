import BroadcastFilter.Unicode.CodeSet

/-!
Scripts: each one's short and long names and the characters that belong to it alone.
-/

namespace BroadcastFilter.Unicode

/-- The scripts. -/
def scripts : List (List String × String) := [
  (["Adlm", "Adlam"],
    "Zwe0YB4941"),
  (["Ahom", "Ahom"],
    "Ybu0Q2E4M"),
  (["Hluw", "Anatolian_Hieroglyphs"],
    "YnW0o6"),
  (["Arab", "Arabic"],
    "Xm04151D121V19BP1ZB1X1YGXFdGU115YA1SXyoGZIGhA2YF2XL70X0FZG41a6Zx3UY32XN3Xtu031Q1110201913101
    060401010121110201010101011102316131310191G52141GXK1"),
  (["Armn", "Armenian"],
    "XfHX52XH22Xzi34"),
  (["Avst", "Avestan"],
    "YYu0XL36"),
  (["Bali", "Balinese"],
    "cu0YC1XH"),
  (["Bamu", "Bamum"],
    "Xfr0YNXme8nO"),
  (["Bass", "Bassa_Vah"],
    "YwsGT25"),
  (["Batk", "Batak"],
    "c+0XJ83"),
  (["Beng", "Bengali"],
    "Yi0317212L1610332821238041142O"),
  (["Bhks", "Bhaiksuki"],
    "YdW081XC1DAS"),
  (["Bopo", "Bopomofo"],
    "tA1hmPXAZGV"),
  (["Brah", "Brahmi"],
    "YaW0YD4X390"),
  (["Brai", "Braille"],
    "gW0dV"),
  (["Bugi", "Buginese"],
    "cm0R21"),
  (["Buhd", "Buhid"],
    "bw0J"),
  (["Cans", "Canadian_Aboriginal"],
    "bW0pVnGY5YWjQF"),
  (["Cari", "Carian"],
    "YWr0XG"),
  (["Aghb", "Caucasian_Albanian"],
    "YXfGXJB0"),
  (["Cakm", "Chakma"],
    "Yae0XK1H"),
  (["Cham", "Cham"],
    "Xgm0XM9D2923"),
  (["Cher", "Cherokee"],
    "az0YL25XbxIYF"),
  (["Chrs", "Chorasmian"],
    "YZzGR"),
  (["Zyyy", "Common"],
    "0Y0Q5QXE1E14N0V0k1X6542JZK0906010pT060E030X00aS0m40a11XcP0iL3f20XlF2Y71cB110XcD0D073151220u5
    B2YM1A3A1EHX0XVX512251Q1GX924qPMALyVe0pJ2V1Z8m0YTiIK101OF743YR130YQ1aJFX0X590XGXVVYGXF0YOb7c
    k0XVse0X1Z62b59dK0b00iB0E1qkI1cG9MX21I13aJ01VQ5QAA0XD1Y0616A4e224XC38YGCXJXCd4QXkj43ZwSdP6jJ
    aSZJXSdLAX62XT3G817T4XScLJCJCYM9Oa7YK1Y6112021231B10161Y01327161R131410361gJ2f32XHbZHY3YCXSs
    2XB4Z3CE2E1E1X4AbDXOP11DXB4871E5aQ+N4G3C3ZM4YU6B40FB4XN896X78T2B41XUgJCD2C395XN7E2A687aI1Z5u
    XW70UYV"),
  (["Copt", "Coptic", "Qaac"],
    "-2DgaGZJ56"),
  (["Xsux", "Cuneiform"],
    "YeW0yPZ6ZE14Bc3"),
  (["Cprt", "Cypriot"],
    "YYW05201XB113020"),
  (["Cpmn", "Cypro_Minoan"],
    "YhyGZ2"),
  (["Cyrl", "Cyrillic"],
    "XW0a42b8bwGAb00YC0aZ7V+Y0YVryE1Xum0XTX10"),
  (["Dsrt", "Deseret"],
    "YXW0YF"),
  (["Deva", "Devanagari"],
    "Ye0YG4E2PXdx0Vym09"),
  (["Diak", "Dives_Akuru"],
    "Yce062027111T112B99"),
  (["Dogr", "Dogra"],
    "YcW0XR"),
  (["Dupl", "Duployan"],
    "ZlW0ZA5C387923"),
  (["Egyp", "Egyptian_Hieroglyphs"],
    "YiW0XYLAZyQ"),
  (["Elba", "Elbasan"],
    "YXe0X7"),
  (["Elym", "Elymaic"],
    "YZ-0M"),
  (["Ethi", "Ethiopic"],
    "am0Y8132610132X8132X0132610132E1XO132Y22V3Pcl6M9616161616161616-f2525259616YlbH613111E"),
  (["Gara", "Garay"],
    "YZg0X53S81"),
  (["Geor", "Georgian"],
    "ab0X510502XA13YyGXA22aY0X51050"),
  (["Glag", "Glagolitic"],
    "hW0YVZiz061G261114"),
  (["Goth", "Gothic"],
    "YWvGQ"),
  (["Gran", "Grantha"],
    "Yau0317212L1611142821222060562634"),
  (["Grek", "Greek"],
    "xG3122310401012101J1XUEFcf64XI444YK0g0L252X525271010101U2XK1E1D251I2218f70XYnU0rkQYEH0XqYVY5"),
  (["Gujr", "Gujarati"],
    "Yq1218121L16111429121220F32B76"),
  (["Gong", "Gunjala_Gondi"],
    "Ydh05111X4111579"),
  (["Guru", "Gurmukhi"],
    "Ym1215412L16111111201441223073107G"),
  (["Gukh", "Gurung_Khema"],
    "Yue0XP"),
  (["Hani", "Han"],
    "hq0P1YOCcLXF010P8E3+4cjVY0qlVse0hD2Z9ze81C1XaWEXfsVX0aXP6cT2bq1EdfGFpDYj2mTXl2awA5aYV"),
  (["Hang", "Hangul"],
    "ae0dVdnE1e1YTZHUY1Uzt1Sq3gz3CM4XGfz4U35252522"),
  (["Rohg", "Hanifi_Rohingya"],
    "YZe0X789"),
  (["Hano", "Hanunoo"],
    "bv0K"),
  (["Hatr", "Hatran"],
    "YYd0I1154"),
  (["Hebr", "Hebrew"],
    "XiHXM8Q45Xzf8P1410111119"),
  (["Hira", "Hiragana"],
    "iY1YL62Y-x1eUI0T2mbD0"),
  (["Armi", "Imperial_Aramaic"],
    "YYY0L18"),
  (["Zinh", "Inherited", "Qaai"],
    "u0ZFeL1k4AQ0t03agRUm121C16406031c6XVmC1c2X0ZvP3ZB1Xph5FGD+F0d20aYQ0Xk+4XD2Mn02H726U3uhwIdF"),
  (["Phli", "Inscriptional_Pahlavi"],
    "YYx0I57"),
  (["Prti", "Inscriptional_Parthian"],
    "YYw0L27"),
  (["Java", "Javanese"],
    "Xgi0YD2941"),
  (["Kthi", "Kaithi"],
    "Yaa0Y2A0"),
  (["Knda", "Kannada"],
    "Za0C121M19142812137161132912"),
  (["Kana", "Katakana"],
    "ib1YP22dGFcGXE1YNXpWE91XCXiYI3161110eV2XI0E3"),
  (["Kawi", "Kawi"],
    "Ydu0G1X83S"),
  (["Kali", "Kayah_Li"],
    "Xge0XD10"),
  (["Khar", "Kharoshthi"],
    "YYm031157121S224978"),
  (["Kits", "Khitan_Small_Script"],
    "Yx-40cuRkLX90"),
  (["Khmr", "Khmer"],
    "by0YT2969l6V"),
  (["Khoj", "Khojki"],
    "Yam0H1XE"),
  (["Sind", "Khudawadi"],
    "YarGXQ59"),
  (["Krai", "Kirat_Rai"],
    "Yxg0XP"),
  (["Laoo", "Lao"],
    "Zq1110141N101M2410161923"),
  (["Latn", "Latin"],
    "Y1P6PXF0F05M1U1k0X74cmRX56XG535C1Y5Y1dVhH0D0GCaD160R0HX8YsNV+r2Z53Y2211017LDvGXA1813pyM6XWQP
    6PYX551X918Xrw5U65"),
  (["Lepc", "Lepcha"],
    "dW0XN3E32"),
  (["Limb", "Limbu"],
    "ce0U1B4B403B"),
  (["Lina", "Linear_A"],
    "YXm0fM9LA7"),
  (["Linb", "Linear_B"],
    "YWW0B1P1I111E2DX2ZQ"),
  (["Lisu", "Lisu"],
    "XfcGXF+rG0"),
  (["Lyci", "Lycian"],
    "YWq0S"),
  (["Lydi", "Lydian"],
    "YYf0P50"),
  (["Mahj", "Mahajani"],
    "YagGX6"),
  (["Maka", "Makasar"],
    "Ydt0O"),
  (["Mlym", "Malayalam"],
    "Ze0C121XI12154F2P"),
  (["Mand", "Mandaic"],
    "YY0R20"),
  (["Mani", "Manichaean"],
    "YYs0X64B"),
  (["Marc", "Marchen"],
    "YdZGV2L1D"),
  (["Gonm", "Masaram_Gondi"],
    "Yde06111XB30111889"),
  (["Medf", "Medefaidrin"],
    "Yxo0YQ"),
  (["Mtei", "Meetei_Mayek"],
    "Xgt0Mc9XD29"),
  (["Mend", "Mende_Kikakui"],
    "ZwW0c42F"),
  (["Merc", "Meroitic_Cursive"],
    "YYj0N4J2XD"),
  (["Mero", "Meroitic_Hieroglyphs"],
    "YYi0V"),
  (["Plrd", "Miao"],
    "Yxu0YA4XO7G"),
  (["Modi", "Modi"],
    "Ybm0Y4B9"),
  (["Mong", "Mongolian"],
    "cW01201J6YO7XAX-jLC"),
  (["Mroo", "Mro"],
    "Ywo0U1941"),
  (["Mult", "Multani"],
    "Yaq0610131E1A"),
  (["Mymr", "Myanmar"],
    "aW0aVXcg0UZ1VxYGJ"),
  (["Nbat", "Nabataean"],
    "YYa0U88"),
  (["Nagm", "Nag_Mundari"],
    "ZvcGX9"),
  (["Nand", "Nandinagari"],
    "Ycj072XD2A"),
  (["Talu", "New_Tai_Lue"],
    "ci0XB4P6A31"),
  (["Newa", "Newa"],
    "YbW0YR14"),
  (["Nkoo", "Nko"],
    "X+0XQ22"),
  (["Nshu", "Nushu"],
    "Yx-10miEiB"),
  (["Hmnp", "Nyiakeng_Puachue_Hmong"],
    "Zue0XC3D2941"),
  (["Ogam", "Ogham"],
    "bq0S"),
  (["Olck", "Ol_Chiki"],
    "dYGXF"),
  (["Onao", "Ol_Onal"],
    "ZvkGXA40"),
  (["Hung", "Old_Hungarian"],
    "YZa0XIDXI75"),
  (["Ital", "Old_Italic"],
    "YWu0X392"),
  (["Narb", "Old_North_Arabian"],
    "YYq0V"),
  (["Perm", "Old_Permic"],
    "YWwGXA"),
  (["Xpeo", "Old_Persian"],
    "YWz0X34D"),
  (["Sogo", "Old_Sogdian"],
    "YZu0X7"),
  (["Sarb", "Old_South_Arabian"],
    "YYp0V"),
  (["Orkh", "Old_Turkic"],
    "YZW0Y8"),
  (["Ougr", "Old_Uyghur"],
    "YZxGP"),
  (["Orya", "Oriya"],
    "Yu1217212L1611142821227241142H"),
  (["Osge", "Osage"],
    "YXbGX34X3"),
  (["Osma", "Osmanya"],
    "YXa0T29"),
  (["Hmng", "Pahawh_Hmong"],
    "Ywu0Y5A9161K5I"),
  (["Palm", "Palmyrene"],
    "YYZ0V"),
  (["Pauc", "Pau_Cin_Hau"],
    "Ycs0XO"),
  (["Phag", "Phags_Pa"],
    "XgY0XN"),
  (["Phnx", "Phoenician"],
    "YYe0R30"),
  (["Phlp", "Psalter_Pahlavi"],
    "YYy0H73C6"),
  (["Rjng", "Rejang"],
    "XgfGX3B0"),
  (["Runr", "Runic"],
    "br0YA3A"),
  (["Samr", "Samaritan"],
    "YW0XD2E"),
  (["Saur", "Saurashtra"],
    "Xga0Y58B"),
  (["Shrd", "Sharada"],
    "Yai0YV"),
  (["Shaw", "Shavian"],
    "YXYGXF"),
  (["Sidd", "Siddham"],
    "Ybi0XL2X5"),
  (["Sgnw", "SignWriting"],
    "ZsW0qBF41E"),
  (["Sinh", "Sinhala"],
    "Zi121H3N181026304510176922YW-CJ"),
  (["Sogd", "Sogdian"],
    "YZvGX9"),
  (["Sora", "Sora_Sompeng"],
    "YacGO79"),
  (["Soyo", "Soyombo"],
    "YcoGYI"),
  (["Sund", "Sundanese"],
    "cy0XVe07"),
  (["Sunu", "Sunuwar"],
    "Yc+0X1E9"),
  (["Sylo", "Syloti_Nagri"],
    "XgW0XC"),
  (["Syrc", "Syriac"],
    "Xu0D1XR22eGA"),
  (["Tglg", "Tagalog"],
    "bu0L90"),
  (["Tagb", "Tagbanwa"],
    "bx0C1211"),
  (["Tale", "Tai_Le"],
    "cgGT24"),
  (["Lana", "Tai_Tham"],
    "cn0XU1S2A696D"),
  (["Tavt", "Tai_Viet"],
    "Xgq0Y2O4"),
  (["Takr", "Takri"],
    "Ybq0XP69"),
  (["Taml", "Tamil"],
    "Yy2115321331101131323B4432132060EKYa+5XHD0"),
  (["Tnsa", "Tangsa"],
    "YwpGYE19"),
  (["Tang", "Tangut"],
    "Yx-00Vb-N8tVm08"),
  (["Telu", "Telugu"],
    "ZW0C121M1F281213711220232978"),
  (["Thaa", "Thaana"],
    "Xy0XH"),
  (["Thai", "Thai"],
    "Zm1XP5R"),
  (["Tibt", "Tibetan"],
    "Zu0Y71X34X61X31E1641"),
  (["Tfng", "Tifinagh"],
    "hfGXN71E0"),
  (["Tirh", "Tirhuta"],
    "Yba0Y789"),
  (["Todr", "Todhri"],
    "YXk0XJ"),
  (["Toto", "Toto"],
    "ZuqGU"),
  (["Tutg", "Tulu_Tigalari"],
    "Yay0910201X519102013191181"),
  (["Ugar", "Ugaritic"],
    "YWy0T10"),
  (["Vaii", "Vai"],
    "Xfe0fB"),
  (["Vith", "Vithkuqi"],
    "YXhGA1E16111A1E1611"),
  (["Wcho", "Wancho"],
    "Zus0XP50"),
  (["Wara", "Warang_Citi"],
    "Ycb0YIC0"),
  (["Yezi", "Yezidi"],
    "YZq0X91221"),
  (["Yiii", "Yi"],
    "XeW0XaC3XM"),
  (["Zanb", "Zanabazar_Square"],
    "Ycm0Y7")]

end BroadcastFilter.Unicode
