import BroadcastFilter.Unicode.Category
import BroadcastFilter.Unicode.Trait

/-!
The classes of single characters that the library asks for by name: word characters, digits and
white space as patterns understand them, letters and numbers in group names, and the characters that
a quoted text shows as they are.
-/

namespace BroadcastFilter.Unicode

/-- The set of the first row with the given name. -/
def rowNamed (table : List (List String × String)) (name : String) : CodeSet :=
  match table.find? (fun row => row.1.contains name) with
  | some row => CodeSet.unpack row.2
  | none => CodeSet.empty

/-- Letters, marks, decimal digits, connecting punctuation and the two joiners. -/
def wordCharacters : CodeSet := CodeSet.unpack
    "XG97P401PXF0A0405M1U1k94BE47010HZK1123106012101J1YI1aA1bC1X5206X88XC101111108Q43TA5Y94Z51729
    1I20GXQ2Z4EXL40202XDIR4A5N158YA1a0291I17212L1610332821238041142BA0102215412L1611111120144122
    3073107FB218121L16111429121220F329961217212L1611142821227241142910G115321331101131323B443213
    2060E9GC121M1F2812137112202329G317121M19142812137161132912CC121XI1214537429A5121H3N181026304
    510176921DXP5E19X7110141N101M2410161923X00N169B01010491X34J1H1X390XPY96YD2X510502XA1gC132610
    132X8132X0132610132E1XO132Y222X0FGYL253pB2G1P5YA3A7L9LBJCC1211CYJ304129X121A6YO7XA5Y5AU1B4BA
    X724BXB4P69X6R4XU1S2A69D08UXHYC39H8CZJCXN893XG2A5XA22G21X65mL252X525271010101U2XK16103216332
    54C5216F1XH1J0S0D0GCXJX0H040291034601010131A235440HX8vDXJXuMd468CX510502XN70FN96161616161616
    161VXF0kL2PE14244YL21221YP135XA1YTHVXGFm0cjVY0rqCY3XD2eC3RKXI191ZIX582Z62Y2211017LXL40JXJCY5
    A96N301XG2X3CS3Y0EA6U1XM9D296M3Y8O22F24A5252596161XA1D6ZQ11296gz3CM4XGee4hD2Z9X66C45B1C14101
    1111ZBX1hAIXV2XLX8B4FGF31O2X041a6J97P401PBYO35252522X3B1P1I111E2DX2ZQY5XKa80a2S3XGF0VVDT5XA5
    T2X34714XAaT296X34X34X78XJCA1E16111A1E16113XJCfM9LA7O51X918Y55201XB11302MAM9UY1I11ALAPY6XN61
    Y031157121S2240X0S3SX371TPXLALAIDHZEY8XNXIDXIDX7896X5341MdQX91131G2XNX0A08X0VLXAKRM9Y6VF9XR7
    0DO796XK19438X3209Y4431C10X3H1X463XU610131E197XQ596317212L1611141921222060562634B910201X5191
    0201317D1TYA5943UY51089b6XL28N5X2Y030B9X6XO796JSQ2E4966bPXQZ5Y9L72027111T1128C9Y672XD2711RXU
    808Y930IY8c7X0F9681XC18F9OT2L1DY96111XB3011188965111X4111579fMM9G1X834DAYL0YFyPZ6ZEHc3YoCZ0F
    XXFGLAZyQ5o6crPXPXs6nO7U196YE196T24BXM93C99K5IjGXC39c6XVa0YA4XO7GY0111B1Eb-N8XcLX99et7316111
    f2F0T220E38iBYe4ZA5C387931aYH9m6XD2MmU4358726U3aK2jRYK1Y6112021231B10161Y01327161R131410361g
    J2O1O1U1O1U1O1U1O1U1O172XHm0XM4XH80E0M41EXYGU65cL61G2611145XTX10ZGXC3D2940g1UHXPkMX9cMXAl561
    3111E1c4B6X9YB49Xb631Q1110201913101060401010121110201010101011102316131310191G52141GpKP6P6PY
    p69XW6XfsVX0aXP6cT2bq1EdfGFpDYj2mTXl2awA5aYVrtgGdF"

/-- Decimal digits of all scripts. -/
def digits : CodeSet := CodeSet.unpack
    "XG9Xn69a69c69iS9ZM9ZM9ZM9ZM9ZM9ZM9ZM9ZM9ZM9Z09ZM9Y69eM9Y69Xw69X69fC9a09b6969bM9YM9a6969XYk69
    r69X69c69M9YM9iM9quM9Xi69Ya6969uS9a09XS9aG9eM9gM9ZM9hM9Z696JYC9j69Z69qM9YM9dM9Y69j69mkM9Yf69
    YM9a69mM9txM9YsKXHYg09j69lM9dN9wL9aqM9"

/-- White space, line ends included. -/
def whiteSpace : CodeSet := CodeSet.unpack
    "94I0Z40Q0bkV0YhVAT150XF0Zz00"

/-- The letters of all scripts. -/
def alphabetic : CodeSet := rowNamed traits "Alphabetic"

/-- Letters and every kind of number. -/
def alphanumeric : CodeSet :=
  CodeSet.unions (alphabetic :: ["Nd", "Nl", "No"].map (rowNamed categories))

/-- Characters that a quoted text must write by number: marks that attach to the character before,
and all that is not visible, the plain space apart. -/
def hidden : CodeSet :=
  (CodeSet.unions (rowNamed traits "Grapheme_Extend" ::
      ["Cc", "Cf", "Cn", "Co", "Zl", "Zp", "Zs"].map (rowNamed categories))).difference
    (CodeSet.single 0x20)

end BroadcastFilter.Unicode
