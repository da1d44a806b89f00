import BroadcastFilter.Binary64.Style
import BroadcastFilter.Json.Value
import BroadcastFilter.Text.Quoted

/-!
Values of JSON as text on one line, without blanks.
-/

namespace BroadcastFilter.Json

/-- Two hexadecimal digits. -/
def twoDigits (n : Nat) : String := if n < 16 then "0" ++ Text.hex n else Text.hex n

/-- One character inside a string. -/
def escape (c : Char) : String :=
  match c with
  | '"' => "\\\""
  | '\\' => "\\\\"
  | '\x08' => "\\b"
  | '\x0c' => "\\f"
  | '\n' => "\\n"
  | '\r' => "\\r"
  | '\t' => "\\t"
  | c => if c.toNat < 0x20 then "\\u00" ++ twoDigits c.toNat else String.singleton c

def quote (s : String) : String := "\"" ++ String.join (s.toList.map escape) ++ "\""

def Number.toText : Number → String
  | .integer n => toString n
  | .float x => x.toText .json

mutual

def Value.toText : Value → String
  | .null => "null"
  | .bool b => if b then "true" else "false"
  | .number n => n.toText
  | .string s => quote s
  | .array items => "[" ++ ",".intercalate (itemTexts items) ++ "]"
  | .object entries => "\x7b" ++ ",".intercalate (entryTexts entries) ++ "\x7d"

def itemTexts : List Value → List String
  | [] => []
  | item :: rest => item.toText :: itemTexts rest

def entryTexts : List (String × Value) → List String
  | [] => []
  | (key, value) :: rest => (quote key ++ ":" ++ value.toText) :: entryTexts rest

end

end BroadcastFilter.Json
