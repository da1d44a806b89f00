import BroadcastFilter.Unicode.Character

/-!
Quoted text for messages: double quotes around the text, and escapes for what could not be read
otherwise. Tabs, line ends, the zero character, quotes and backslashes have short escapes; every
other character that does not show, or that attaches to the one before it, is written by number.
-/

namespace BroadcastFilter.Text

/-- The hexadecimal digits of a number, in lower case. -/
def hex (n : Nat) : String := String.ofList (Nat.toDigits 16 n)

/-- One character inside quotes. -/
def quotedChar (c : Char) : String :=
  match c with
  | '\x00' => "\\0"
  | '\t' => "\\t"
  | '\r' => "\\r"
  | '\n' => "\\n"
  | '\\' => "\\\\"
  | '"' => "\\\""
  | c =>
    if Unicode.hidden.contains c.toNat then "\\u\x7b" ++ hex c.toNat ++ "\x7d"
    else String.singleton c

def quoted (s : String) : String :=
  "\"" ++ String.join (s.toList.map quotedChar) ++ "\""

end BroadcastFilter.Text
