/-!
Classes of characters in YAML text.
-/

namespace BroadcastFilter.Yaml

/-- Characters that end a line. -/
def isBreak (c : Char) : Bool :=
  c == '\n' || c == '\r' || c == '\u0085' || c == '\u2028' || c == '\u2029'

def isBlank (c : Char) : Bool := c == ' ' || c == '\t'

/-- A blank, a line break, or the zero character, which ends a text. -/
def isBlankOrEnd (c : Char) : Bool := isBlank c || isBreak c || c == '\x00'

/-- The text is at its end, or a blank or a line break comes next. -/
def blankNext : List Char → Bool
  | [] => true
  | c :: _ => isBlankOrEnd c

/-- The text is at its end, or a line break comes next. -/
def breakNext : List Char → Bool
  | [] => true
  | c :: _ => isBreak c || c == '\x00'

/-- Characters of the names of anchors, tag handles and directives. -/
def isNameChar (c : Char) : Bool :=
  ('0' ≤ c && c ≤ '9') || ('A' ≤ c && c ≤ 'Z') || ('a' ≤ c && c ≤ 'z') || c == '_' || c == '-'

def isDigit (c : Char) : Bool := '0' ≤ c && c ≤ '9'

/-- Characters that may stand in a text at all. -/
def isAllowed (c : Char) : Bool :=
  let n := c.toNat
  n == 0x9 || n == 0xA || n == 0xD || (0x20 ≤ n && n ≤ 0x7E) || n == 0x85 ||
    (0xA0 ≤ n && n ≤ 0xD7FF) || (0xE000 ≤ n && n ≤ 0xFFFD) || 0x10000 ≤ n

/-- Characters that are written as they are. -/
def isPrintable (c : Char) : Bool :=
  let n := c.toNat
  n == 0xA || (0x20 ≤ n && n ≤ 0x7E) || (0xA0 ≤ n && n ≤ 0xD7FF) ||
    (0xE000 ≤ n && n ≤ 0xFFFD && n != 0xFEFF) || 0x10000 ≤ n

end BroadcastFilter.Yaml
