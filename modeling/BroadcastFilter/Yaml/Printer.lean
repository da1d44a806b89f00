import BroadcastFilter.Json.Printer
import BroadcastFilter.Yaml.Character
import BroadcastFilter.Yaml.Scalar

/-!
Values as YAML text in block style. Entries of a map stand one below the other; the items of a list
under a key stand in the key's column. A string is written plainly if it reads back as itself, else
in single quotes, in double quotes, or as a literal block if it has several lines.
-/

namespace BroadcastFilter.Yaml

/-- What decides how a string may be written. -/
structure Shape where
  /-- Would be read as something else if written plainly. -/
  indicators : Bool
  multiline : Bool
  unprintable : Bool
  /-- Begins or ends with a space or a line break. -/
  blankEdge : Bool
  trailingSpace : Bool
  /-- A line begins with a space. -/
  breakSpace : Bool
  /-- A line ends with a space. -/
  spaceBreak : Bool

namespace Shape

/-- Some two neighbours satisfy the two tests. -/
def anyPair (first second : Char → Bool) : List Char → Bool
  | a :: b :: rest => (first a && second b) || anyPair first second (b :: rest)
  | _ => false

def isSpace (c : Char) : Bool := c == ' '

/-- The first character alone makes a string no plain text; `next` are those after it. -/
def startsMarked (c : Char) (next : List Char) : Bool :=
  ['#', ',', '[', ']', '\x7b', '\x7d', '&', '*', '!', '|', '>', '\'', '"', '%', '@',
      '`'].contains c ||
    (['?', ':', '-'].contains c && blankNext next)

/-- Some character within the string makes it no plain text. -/
def marked : List Char → Bool
  | a :: b :: rest =>
    (b == ':' && blankNext rest) || (b == '#' && isBlankOrEnd a) || marked (b :: rest)
  | _ => false

def of (cs : List Char) : Shape where
  indicators :=
    "---".toList.isPrefixOf cs || "...".toList.isPrefixOf cs ||
      (match cs with
      | c :: next => startsMarked c next
      | [] => false) || marked cs
  multiline := cs.any isBreak
  unprintable := cs.any fun c => !isPrintable c
  blankEdge :=
    cs.head?.any (fun c => isSpace c || isBreak c) ||
      cs.getLast?.any (fun c => isSpace c || isBreak c)
  trailingSpace := cs.getLast?.any isSpace
  breakSpace := anyPair isBreak isSpace cs
  spaceBreak := anyPair isSpace isBreak cs

def allowsPlain (s : Shape) : Bool :=
  !(s.indicators || s.multiline || s.unprintable || s.blankEdge || s.breakSpace || s.spaceBreak)

def allowsSingle (s : Shape) : Bool := !(s.unprintable || s.breakSpace || s.spaceBreak)

def allowsLiteral (s : Shape) : Bool := !(s.unprintable || s.trailingSpace || s.spaceBreak)

end Shape

namespace Printer

def indentation (n : Nat) : String := String.ofList (List.replicate n ' ')

/-- Characters in single quotes. A line break is followed by the indentation of what comes next. -/
def singleQuoted (indent : Nat) : Bool → List Char → String
  | afterBreak, [] => if afterBreak then indentation indent else ""
  | afterBreak, c :: rest =>
    if isBreak c then String.singleton c ++ singleQuoted indent true rest
    else
      (if afterBreak then indentation indent else "") ++
        (if c = '\'' then "''" else String.singleton c) ++ singleQuoted indent false rest

/-- Hexadecimal digits in upper case, at least so many. -/
def upperHex (width n : Nat) : String :=
  let ds := Nat.toDigits 16 n
  String.ofList (List.replicate (width - ds.length) '0' ++ ds.map Char.toUpper)

/-- A character by its number. -/
def numbered (c : Char) : String :=
  let n := c.toNat
  if n ≤ 0xFF then "\\x" ++ upperHex 2 n
  else if n ≤ 0xFFFF then "\\u" ++ upperHex 4 n
  else "\\U" ++ upperHex 8 n

/-- One character in double quotes. -/
def doubleQuotedChar (c : Char) : String :=
  match c with
  | '\x00' => "\\0"
  | '\x07' => "\\a"
  | '\x08' => "\\b"
  | '\t' => "\\t"
  | '\n' => "\\n"
  | '\x0b' => "\\v"
  | '\x0c' => "\\f"
  | '\r' => "\\r"
  | '\x1b' => "\\e"
  | '"' => "\\\""
  | '\\' => "\\\\"
  | '\u0085' => "\\N"
  | '\u2028' => "\\L"
  | '\u2029' => "\\P"
  | c => if isPrintable c then String.singleton c else numbered c

/-- The lines of a literal block, each indented unless it is empty. -/
def literalLines (indent : Nat) : Bool → List Char → String
  | _, [] => ""
  | lineStart, c :: rest =>
    if isBreak c then String.singleton c ++ literalLines indent true rest
    else
      (if lineStart then indentation indent else "") ++ String.singleton c ++
        literalLines indent false rest

/-- The mark that says how a literal block ends. -/
def chomping (cs : List Char) : String :=
  match cs.reverse with
  | [] => "-"
  | last :: before =>
    if !isBreak last then "-"
    else match before with
      | [] => "+"
      | c :: _ => if isBreak c then "+" else ""

/-- The header of a literal block: an indentation is given if the text begins with a blank. -/
def literalHeader (cs : List Char) : String :=
  "|" ++ (if cs.head?.any fun c => c == ' ' || isBreak c then "2" else "") ++ chomping cs

/-- A literal block, with the line break that ends it. -/
def literal (indent : Nat) (cs : List Char) : String :=
  literalHeader cs ++ "\n" ++ literalLines indent true cs ++
    (if cs.getLast?.any isBreak then "" else "\n")

/-- A string where a value stands, with the line break that ends it. -/
def string (indent : Nat) (s : String) : String :=
  let cs := s.toList
  let shape := Shape.of cs
  let single := "'" ++ singleQuoted indent false cs ++ "'\n"
  let double := "\"" ++ String.join (cs.map doubleQuotedChar) ++ "\"\n"
  if cs.contains '\n' then if shape.allowsLiteral then literal indent cs else double
  else if Scalar.resolve s = .text ∧ ¬ Scalar.hasLeadingZero cs ∧ shape.allowsPlain then s ++ "\n"
  else if shape.allowsSingle then single
  else double

/-- A key; it stands on one line. -/
def key (s : String) : String :=
  let cs := s.toList
  let shape := Shape.of cs
  if Scalar.resolve s = .text ∧ ¬ Scalar.hasLeadingZero cs ∧ shape.allowsPlain then s
  else if shape.allowsSingle && !shape.multiline then "'" ++ singleQuoted 0 false cs ++ "'"
  else "\"" ++ String.join (cs.map doubleQuotedChar) ++ "\""

end Printer

open Json

mutual

/-- A value whose first line goes on at column `column`, where the further lines of a list or map
begin too. The further lines of a string are indented by two at least. -/
def renderAt (column : Nat) : Value → String
  | .null => "null\n"
  | .bool b => if b then "true\n" else "false\n"
  | .number n => n.toText ++ "\n"
  | .string s => Printer.string (max column 2) s
  | .array [] => "[]\n"
  | .array (item :: rest) =>
    "- " ++ renderAt (column + 2) item ++ renderItems column rest
  | .object [] => "\x7b\x7d\n"
  | .object ((k, value) :: rest) =>
    Printer.key k ++ ":" ++ renderEntry column value ++ renderEntries column rest

/-- Items after the first. -/
def renderItems (column : Nat) : List Value → String
  | [] => ""
  | item :: rest =>
    Printer.indentation column ++ "- " ++ renderAt (column + 2) item ++ renderItems column rest

/-- Entries after the first. -/
def renderEntries (column : Nat) : List (String × Value) → String
  | [] => ""
  | (k, value) :: rest =>
    Printer.indentation column ++ Printer.key k ++ ":" ++ renderEntry column value ++
      renderEntries column rest

/-- The value of an entry whose key stands at `column`. -/
def renderEntry (column : Nat) : Value → String
  | .array (item :: rest) =>
    "\n" ++ Printer.indentation column ++ "- " ++ renderAt (column + 2) item ++
      renderItems column rest
  | .object ((k, value) :: rest) =>
    "\n" ++ Printer.indentation (column + 2) ++ Printer.key k ++ ":" ++
      renderEntry (column + 2) value ++ renderEntries (column + 2) rest
  | .string s => " " ++ Printer.string (column + 2) s
  | .array [] => " []\n"
  | .object [] => " \x7b\x7d\n"
  | .null => " null\n"
  | .bool b => if b then " true\n" else " false\n"
  | .number n => " " ++ n.toText ++ "\n"

end

/-- A value as a document. -/
def render (v : Value) : String := renderAt 0 v

end BroadcastFilter.Yaml
