import BroadcastFilter.Unicode.CodeSet

/-!
Script extensions: for each script the characters it is written with, including those it shares
with other scripts.
-/

namespace BroadcastFilter.Unicode

/-- The characters used by each script. -/
def scriptExtensions : List (List String × String) := [
  (["Adlm", "Adlam"],
    "XmV0X00cmE0ZlH0ZkrUYB4941"),
  (["Ahom", "Ahom"],
    "Ybu0Q2E4M"),
  (["Hluw", "Anatolian_Hieroglyphs"],
    "YnW0o6"),
  (["Arab", "Arabic"],
    "Xm041cM1X1YGXFdGU115YA1SbwF0ZlH0XpeEZIGjS2XL70X0FZG41a6-3RYx4UY32XN3Xtu031Q11102019131010604
    01010121110201010101011102316131310191G52141GXK1"),
  (["Armn", "Armenian"],
    "u80n8X52XH22Xzi34"),
  (["Avst", "Avestan"],
    "bN0hhO1XtcEXL36"),
  (["Bali", "Balinese"],
    "cu0YC1XH"),
  (["Bamu", "Bamum"],
    "Xfr0YNXme8nO"),
  (["Bass", "Bassa_Vah"],
    "YwsGT25"),
  (["Batk", "Batak"],
    "c+0XJ83"),
  (["Beng", "Bengali"],
    "rS0XqK1H1Q317212L1610332821238041142OasH01021108080204022XY-P0"),
  (["Bhks", "Bhaiksuki"],
    "YdW081XC1DAS"),
  (["Bopo", "Bopomofo"],
    "s7012D0G1heL2491CA32060c309XAZGVXpa51eQ4"),
  (["Brah", "Brahmi"],
    "YaW0YD4X390"),
  (["Brai", "Braille"],
    "gW0dV"),
  (["Bugi", "Buginese"],
    "cm0R21XZzF0"),
  (["Buhd", "Buhid"],
    "bvL19J"),
  (["Cans", "Canadian_Aboriginal"],
    "bW0pVnGY5YWjQF"),
  (["Cari", "Carian"],
    "bN0dz2020ZkJ0XrZEXG"),
  (["Aghb", "Caucasian_Albanian"],
    "u40XC0XC0YWkHXJB0"),
  (["Cakm", "Chakma"],
    "Yl69XoG9YWbMXK1H"),
  (["Cham", "Cham"],
    "Xgm0XM9D2923"),
  (["Cher", "Cherokee"],
    "u021061M1B1aZEYL25XbxIYF"),
  (["Chrs", "Chorasmian"],
    "YZzGR"),
  (["Zyyy", "Common"],
    "0Y0Q5QXE1B1114N0V0k12191030181015542JZU06010pT0cN0m40XgS0iL3aX7B2X01U1911161A3A1EHX0XVX51225
    1Q1GX924qPMALyVe0pJ2V1Z8m0M1N2913101Pj2030D0D0L0mHNV0XHEC3b195YVV0ck0XVse8PZ62+G0E1qr49MK2B1
    I13aJ01VQ5Q5ZV616A4iICXJXCXom3dP6jJaSZJXSdLAX62XT3G817T4XScLJCJCYMR6a7YK1Y6112021231B10161Y0
    1327161R131410361gJ2f32XHbZHY3YCXSs2XB4Z3CE2E1E1X4AbDXOP11DXB48N5aQ+N4G3C3ZM4YU6B40FB4XN896X
    78T2B41XUgJCD2C395XN7E2A687aI1Z5uXW70UYV"),
  (["Copt", "Coptic", "Qaac"],
    "bN0o803110ZC1ZCDgaGZJ56eN0Xrc8R"),
  (["Xsux", "Cuneiform"],
    "YeW0yPZ6ZE14Bc3"),
  (["Cprt", "Cypriot"],
    "YWe024XC38Xs05201XB113020"),
  (["Cpmn", "Cypro_Minoan"],
    "YWe01hqEZ2"),
  (["Cyrl", "Cyrillic"],
    "rS0Y321010102050dEfFbwGAb00YC0ZV0Z-7VY30z-SYVryE1Xum0XTX10"),
  (["Dsrt", "Deseret"],
    "YXW0YF"),
  (["Deva", "Devanagari"],
    "rS0Xo3YI2XAawGX611-M0XXvV9b6Vym09"),
  (["Diak", "Dives_Akuru"],
    "Yce062027111T112B99"),
  (["Dogr", "Dogra"],
    "Yh4BXds09x+6XR"),
  (["Dupl", "Duployan"],
    "bN0oF110O1guN0ZZk3ZA5C387927"),
  (["Egyp", "Egyptian_Hieroglyphs"],
    "YiW0XYLAZyQ"),
  (["Elba", "Elbasan"],
    "bN0oD0YWlQX7"),
  (["Elym", "Elymaic"],
    "YZ-0M"),
  (["Ethi", "Ethiopic"],
    "uE0ZtHY8132610132X8132X0132610132E1XO132Y22V3Pcl6M9616161616161616-f2525259616YlbH613111E"),
  (["Gara", "Garay"],
    "XmC0E030YXv0X53S81"),
  (["Geor", "Georgian"],
    "bN0XcH0YuMX510502XFYyGXA22yQ0Zb5X51050e30"),
  (["Glag", "Glagolitic"],
    "bN0oB010hU020e10YxH0ZwU0Yz5YVl30+XB0YkiG61G261114"),
  (["Goth", "Gothic"],
    "bN0oC120X80X--UQ"),
  (["Gran", "Grantha"],
    "YgH1H1q0DacS011U231-M0XymF317212L1611141921222060562634ZYR110"),
  (["Grek", "Greek"],
    "bN0o81201010A0XE020XA72310401012101J1XUEFcf64XI444YK2fUL252X525271010101U2XK1E1D251I2218YU0c
    80XYnU0rkQYEH0XqYVY5"),
  (["Gujr", "Gujarati"],
    "YgH1H1eR218121L16111429121220F32B76XdfG9"),
  (["Gong", "Gunjala_Gondi"],
    "bN0YbC1Ya-Q5111X4111579"),
  (["Guru", "Gurmukhi"],
    "YgH1H1aR215412L16111111201441223073107GXdjP9"),
  (["Gukh", "Gurung_Khema"],
    "Yh50YryQXP"),
  (["Hani", "Han"],
    "bN0hk8P1YOCcLQF121C1C1C2068bR0aKFX0X590XGX7XOXGFBXJ0YOOA4Z0U1cjVY0qlVXu07qlOhD2Z9xB1eQ4yZS1C
    1uxEHdsU1ZjEXfsVX0aXP6cT2bq1EdfGFpDYj2mTXl2awA5aYV"),
  (["Hang", "Hangul"],
    "ae0dVdm12491CE260c30XLYTZHUY1Uzt1Sq3gz3CM4XGfo91eQ4XQU35252522"),
  (["Rohg", "Hanifi_Rohingya"],
    "XmC0E030X00aJ0YXnBX789"),
  (["Hano", "Hanunoo"],
    "bv0M"),
  (["Hatr", "Hatran"],
    "YYd0I1154"),
  (["Hebr", "Hebrew"],
    "u71q8XM8Q45Xzf8P1410111119"),
  (["Hira", "Hiragana"],
    "iW12491CG510413YL27YQ1Xpg81eQ4A0XD1XiZ1eUI0T2mbD0"),
  (["Armi", "Imperial_Aramaic"],
    "YYY0L18"),
  (["Zinh", "Inherited", "Qaai"],
    "uF0201E36202F111H1413XlG1agRUtJXL1014mC1c2VXteGFGD+F0Xpe2XD2Mn02H726U3uhwIdF"),
  (["Phli", "Inscriptional_Pahlavi"],
    "YYx0I57"),
  (["Prti", "Inscriptional_Parthian"],
    "YYw0L27"),
  (["Java", "Javanese"],
    "Xgi0YD1A41"),
  (["Kthi", "Kaithi"],
    "Yh69fc10+lU9wY6Y2A0"),
  (["Knda", "Kannada"],
    "YgH1H1uQC121M19142812137161132912Z+S01160N010XYvR5"),
  (["Kana", "Katakana"],
    "u50T0hcT2491CG51041YR33YVdGFcGXE1YNXotD1eQXUXiYG3161110eV2XI0E3"),
  (["Kawi", "Kawi"],
    "Ydu0G1X83S"),
  (["Kali", "Kayah_Li"],
    "Xge0XF"),
  (["Khar", "Kharoshthi"],
    "YYm031157121S224978"),
  (["Kits", "Khitan_Small_Script"],
    "Yx-40cuRkLX90"),
  (["Khmr", "Khmer"],
    "by0YT2969l6V"),
  (["Khoj", "Khojki"],
    "Yt69Xdg09wk6H1XE"),
  (["Sind", "Khudawadi"],
    "Yh41XdsA9wpMXQ59"),
  (["Krai", "Kirat_Rai"],
    "Yxg0XP"),
  (["Laoo", "Lao"],
    "Zq1110141N101M2410161923"),
  (["Latn", "Latin"],
    "Y1P6PXF0C0205M1U1k030A01210901064RE1110F27111X60504CeL1XcA1Xz80ZW4X56XG535C1Y5XP07dVfF0Y10D0
    GCYJ0XP160R0HX8YsNViN0+d87QZ53Y2211017LDfE0m1XA1813pyM6XWQP6PYX551X918Xrw5U65"),
  (["Lepc", "Lepcha"],
    "dW0XN3E32"),
  (["Limb", "Limbu"],
    "Yh50ZyQU1B4B403B"),
  (["Lina", "Linear_A"],
    "YWe7XCXcCfM9LA7"),
  (["Linb", "Linear_B"],
    "YWW0B1P1I111E2DX2ZQ524XC38"),
  (["Lisu", "Lisu"],
    "rS0G0hfS1zc4XF+rG0"),
  (["Lyci", "Lycian"],
    "eYQ0Xun5S"),
  (["Lydi", "Lydian"],
    "bN0hhP0XstEP50"),
  (["Mahj", "Mahajani"],
    "bN0YbCBXds09weMX6"),
  (["Maka", "Makasar"],
    "Ydt0O"),
  (["Mlym", "Malayalam"],
    "YgH1H1yQC121XI12154F2PZwQ0N0XYvT2"),
  (["Mand", "Mandaic"],
    "Xo00lVR20"),
  (["Mani", "Manichaean"],
    "Xo00YXZVX64B"),
  (["Marc", "Marchen"],
    "YdZGV2L1D"),
  (["Gonm", "Masaram_Gondi"],
    "Yh41YayQ6111XB30111889"),
  (["Medf", "Medefaidrin"],
    "Yxo0YQ"),
  (["Mtei", "Meetei_Mayek"],
    "Xgt0Mc9XD29"),
  (["Mend", "Mende_Kikakui"],
    "ZwW0c42F"),
  (["Merc", "Meroitic_Cursive"],
    "YYj0N4J2XD"),
  (["Mero", "Meroitic_Hieroglyphs"],
    "eYT0Xwf2V"),
  (["Plrd", "Miao"],
    "Yxu0YA4XO7G"),
  (["Modi", "Modi"],
    "XgXG9xk6Y4B9"),
  (["Mong", "Mongolian"],
    "cW0P6YO7XAXy40Z+H153XvoKC"),
  (["Mroo", "Mro"],
    "Ywo0U1941"),
  (["Mult", "Multani"],
    "Yp69YYWG610131E1A"),
  (["Mymr", "Myanmar"],
    "aW0aVXcaE0bHUZ1VxYGJ"),
  (["Nbat", "Nabataean"],
    "YYa0U88"),
  (["Nagm", "Nag_Mundari"],
    "ZvcGX9"),
  (["Nand", "Nandinagari"],
    "YgH0I1y09Z-P08070XYvL5yhA72XD2A"),
  (["Talu", "New_Tai_Lue"],
    "ci0XB4P6A31"),
  (["Newa", "Newa"],
    "YgH1ay201190601010XzuIYR14"),
  (["Nkoo", "Nko"],
    "XmC0E030j0XQ22XzfU1"),
  (["Nshu", "Nushu"],
    "Yx-10miEiB"),
  (["Hmnp", "Nyiakeng_Puachue_Hmong"],
    "Zue0XC3D2941"),
  (["Ogam", "Ogham"],
    "bq0S"),
  (["Olck", "Ol_Chiki"],
    "dYGXF"),
  (["Onao", "Ol_Onal"],
    "Yh41ZtZAXA40"),
  (["Hung", "Old_Hungarian"],
    "eYQ020ZkJ0F0XtnUXIDXI75"),
  (["Ital", "Old_Italic"],
    "YWu0X392"),
  (["Narb", "Old_North_Arabian"],
    "YYq0V"),
  (["Perm", "Old_Permic"],
    "bN0o8052A0hF0X-sCXA"),
  (["Xpeo", "Old_Persian"],
    "YWz0X34D"),
  (["Sogo", "Old_Sogdian"],
    "YZu0X7"),
  (["Sarb", "Old_South_Arabian"],
    "YYp0V"),
  (["Orkh", "Old_Turkic"],
    "eYQ0ZkL0XtkFY8"),
  (["Ougr", "Old_Uyghur"],
    "Xo00YXbH0XZTP"),
  (["Orya", "Oriya"],
    "YgH1H1iR217212L1611142821227241142Hah20N0"),
  (["Osge", "Osage"],
    "u102060YC0YWgNX34X3"),
  (["Osma", "Osmanya"],
    "YXa0T29"),
  (["Hmng", "Pahawh_Hmong"],
    "Ywu0Y5A9161K5I"),
  (["Palm", "Palmyrene"],
    "YYZ0V"),
  (["Pauc", "Pau_Cin_Hau"],
    "Ycs0XO"),
  (["Phag", "Phags_Pa"],
    "cW2110YX90Z+I0+XTXN"),
  (["Phnx", "Phoenician"],
    "YYe0R30"),
  (["Phlp", "Psalter_Pahlavi"],
    "Xo00YXfVH73C6"),
  (["Rjng", "Rejang"],
    "XgfGX3B0"),
  (["Runr", "Runic"],
    "br0YO"),
  (["Samr", "Samaritan"],
    "YW0XD2EflI0"),
  (["Saur", "Saurashtra"],
    "Xga0Y58B"),
  (["Shrd", "Sharada"],
    "YgH0ay501021209020XYw2520wg7YV"),
  (["Shaw", "Shavian"],
    "bN0YWyOXF"),
  (["Sidd", "Siddham"],
    "Ybi0XL2X5"),
  (["Sgnw", "SignWriting"],
    "ZsW0qBF41E"),
  (["Sinh", "Sinhala"],
    "Yh41XWR21H3N181026304510176922ZtT0XzdEJ"),
  (["Sogd", "Sogdian"],
    "Xo00YYdFX9"),
  (["Sora", "Sora_Sompeng"],
    "YacGO79"),
  (["Soyo", "Soyombo"],
    "YcoGYI"),
  (["Sund", "Sundanese"],
    "cy0XVe07"),
  (["Sunu", "Sunuwar"],
    "u01109020S030YcaEX1E9"),
  (["Sylo", "Syloti_Nagri"],
    "Yh41a09XdmGXC"),
  (["Syrc", "Syriac"],
    "u312110O27111sQ0E120X00AAQ0aFD1XR22eGAbiD010"),
  (["Tglg", "Tagalog"],
    "bu0L90L1"),
  (["Tagb", "Tagbanwa"],
    "bvL1X9C1211"),
  (["Tale", "Tai_Le"],
    "u015130ZfJ9Ye6T24"),
  (["Lana", "Tai_Tham"],
    "cn0XU1S2A696D"),
  (["Tavt", "Tai_Viet"],
    "Xgq0Y2O4"),
  (["Takr", "Takri"],
    "Yh41XdsA9xo6XP69"),
  (["Taml", "Tamil"],
    "YgH1H1mS115321331101131323B4432132060EKacV0XZWO0wmD010XN1Za3XHD0"),
  (["Tnsa", "Tangsa"],
    "YwpGYE19"),
  (["Tang", "Tangut"],
    "h-GFlF0YllG0Vb-N8tVm08"),
  (["Telu", "Telugu"],
    "YgH1H1qQC121M1F281213711220232978aYL11010N0"),
  (["Thaa", "Thaana"],
    "XmC0E120Y09eMXHXzo00A0"),
  (["Thai", "Thai"],
    "rS0Q0XB0XD0YsFXP5R"),
  (["Tibt", "Tibetan"],
    "Zu0Y71X34X61X31E1641eXD3"),
  (["Tfng", "Tifinagh"],
    "u201013P0gmCXN71E0"),
  (["Tirh", "Tirhuta"],
    "YgH1H1axF0C0F0XYvT9xY6Y789"),
  (["Todr", "Todhri"],
    "u1020209010YA0YWp1XJ"),
  (["Toto", "Toto"],
    "rS0Zt+JU"),
  (["Tutg", "Tulu_Tigalari"],
    "Zd69aW2010XYvR5bR0wqE910201X519102013191181"),
  (["Ugar", "Ugaritic"],
    "YWy0T10"),
  (["Vaii", "Vai"],
    "Xfe0fB"),
  (["Vith", "Vithkuqi"],
    "YXhGA1E16111A1E1611"),
  (["Wcho", "Wancho"],
    "Zus0XP50"),
  (["Wara", "Warang_Citi"],
    "Ycb0YIC0"),
  (["Yezi", "Yezidi"],
    "XmC0E030Y09YYWMX91221"),
  (["Yiii", "Yi"],
    "iW115927cV0xu4XaC3XMsqQ4"),
  (["Zanb", "Zanabazar_Square"],
    "Ycm0Y7")]

end BroadcastFilter.Unicode
