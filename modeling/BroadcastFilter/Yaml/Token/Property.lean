import BroadcastFilter.Json.Document
import BroadcastFilter.Yaml.Cursor
import BroadcastFilter.Yaml.Token

/-!
Properties of nodes, which are anchors and tags, and directives before a document.
-/

namespace BroadcastFilter.Yaml.Property

/-- The name at the start of a text. -/
def name (cs : List Char) : List Char × List Char :=
  (cs.takeWhile isNameChar, cs.dropWhile isNameChar)

/-- Characters that may follow an anchor's name without a blank. -/
def endsAnchor (c : Char) : Bool := ['?', ':', ',', ']', '\x7d', '%', '@', '\x60'].contains c

/-- The name of an anchor or alias, after its mark. -/
def readAnchor (cs : List Char) : Option (String × List Char) :=
  match name cs with
  | ([], _) => none
  | (found, rest) =>
    if blankNext rest || rest.head?.any endsAnchor then some (String.ofList found, rest) else none

/-- Characters of a tag that are written as they are. -/
def isTagChar (verbatim : Bool) (c : Char) : Bool :=
  isNameChar c ||
    [';', '/', '?', ':', '@', '&', '=', '+', '$', '.', '!', '~', '*', '\'', '(', ')'].contains c ||
    (verbatim && [',', '[', ']'].contains c)

/-- One byte after a percent sign. -/
def byte? : List Char → Option (Nat × List Char)
  | '%' :: a :: b :: rest => do
    some (16 * (← Json.Document.hexDigit? a) + (← Json.Document.hexDigit? b), rest)
  | _ => none

/-- How many bytes a character has that begins with a byte, and that byte's share of it. -/
def lead? (b : Nat) : Option (Nat × Nat) :=
  if b < 0x80 then some (1, b)
  else if b / 0x20 = 6 then some (2, b % 0x20)
  else if b / 0x10 = 14 then some (3, b % 0x10)
  else if b / 0x08 = 30 then some (4, b % 0x08)
  else none

/-- The further bytes of a character. -/
def followers? (n : Nat) : Nat → List Char → Option (Nat × List Char)
  | 0, cs => some (n, cs)
  | count + 1, cs => do
    let (b, rest) ← byte? cs
    if b / 0x40 = 2 then followers? (n * 0x40 + b % 0x40) count rest else none

/-- A character written by its bytes. -/
def escapedChar? (cs : List Char) : Option (Char × List Char) := do
  let (b, rest) ← byte? cs
  let (count, share) ← lead? b
  let (n, rest) ← followers? share (count - 1) rest
  some (Char.ofNat n, rest)

/-- The characters of a tag, put in front of `found` in reverse. -/
def readTagChars (verbatim : Bool) (found : List Char) :
    Nat → List Char → Option (List Char × List Char)
  | 0, _ => none
  | fuel + 1, cs =>
    match cs with
    | '%' :: _ =>
      (escapedChar? cs).bind fun (c, rest) => readTagChars verbatim (c :: found) fuel rest
    | c :: rest =>
      if isTagChar verbatim c then readTagChars verbatim (c :: found) fuel rest
      else some (found.reverse, cs)
    | [] => some (found.reverse, [])

/-- The characters of a tag; none only if `mayBeEmpty`. -/
def tagChars (verbatim mayBeEmpty : Bool) (cs : List Char) : Option (List Char × List Char) :=
  (readTagChars verbatim [] (cs.length + 1) cs).filter fun (found, _) =>
    mayBeEmpty || !found.isEmpty

/-- A handle: a mark, a name, and a second mark if there is one. -/
def handle? : List Char → Option (List Char × List Char)
  | '!' :: rest =>
    match name rest with
    | (found, '!' :: rest) => some ('!' :: found ++ ['!'], rest)
    | (found, rest) => some ('!' :: found, rest)
  | _ => none

/-- A handle with two marks. -/
def isFullHandle (handle : List Char) : Bool := 1 < handle.length && handle.getLast? == some '!'

/-- The parts of a tag: its handle and the rest. A mark alone is all rest. -/
def tagParts (cs : List Char) : Option (List Char × List Char × List Char) :=
  match cs with
  | '!' :: '<' :: rest => do
    let (found, rest) ← tagChars true false rest
    match rest with
    | '>' :: rest => some ([], found, rest)
    | _ => none
  | _ => do
    let (handle, rest) ← handle? cs
    if isFullHandle handle then
      let (suffix, rest) ← tagChars false false rest
      some (handle, suffix, rest)
    else
      let (more, rest) ← tagChars false true rest
      match handle.drop 1 ++ more with
      | [] => some ([], ['!'], rest)
      | suffix => some (['!'], suffix, rest)

/-- A tag. Between brackets a comma may follow it at once. -/
def readTag (flow : Bool) (cs : List Char) : Option (Token × List Char) := do
  let (handle, suffix, rest) ← tagParts cs
  if (flow && rest.head? == some ',') || blankNext rest then
    some (.tag (String.ofList handle) (String.ofList suffix), rest)
  else none

/-- A number of at most nine digits. -/
def versionNumber? (cs : List Char) : Option (Nat × List Char) :=
  let digits := cs.takeWhile isDigit
  if digits.isEmpty || 9 < digits.length then none
  else some (Json.Numeral.ofDigits digits, cs.drop digits.length)

def readVersion (cs : List Char) : Option (Token × List Char) := do
  let (major, rest) ← versionNumber? (cs.dropWhile isBlank)
  match rest with
  | '.' :: rest => do
    let (minor, rest) ← versionNumber? rest
    some (.versionDirective major minor, rest)
  | _ => none

def readTagDirective (cs : List Char) : Option (Token × List Char) := do
  let (handle, rest) ← handle? (cs.dropWhile isBlank)
  if handle ≠ ['!'] ∧ ¬ isFullHandle handle then none
  if !rest.head?.any isBlank then none
  let (replacement, rest) ← tagChars true false (rest.dropWhile isBlank)
  if !blankNext rest then none
  some (.tagDirective (String.ofList handle) (String.ofList replacement), rest)

/-- A directive after its mark, with the rest of its line. -/
def readDirective (cs : List Char) : Option (Token × List Char) := do
  let (found, rest) := name cs
  if !blankNext rest then none
  let (token, rest) ←
    if found = "YAML".toList then readVersion rest
    else if found = "TAG".toList then readTagDirective rest
    else none
  let rest := rest.dropWhile isBlank
  let rest := match rest with
    | '#' :: rest => rest.dropWhile fun c => !isBreak c
    | _ => rest
  if breakNext rest then some (token, rest) else none

end BroadcastFilter.Yaml.Property
