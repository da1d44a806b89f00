import BroadcastFilter.Json.Document
import BroadcastFilter.Yaml.Cursor

/-!
Scalars in quotes. They may go over several lines; the breaks and the blanks around them fold. In
single quotes a quote is written twice, in double quotes a backslash begins an escape.
-/

namespace BroadcastFilter.Yaml.Quoted

/-- The number that hexadecimal digits write. -/
def ofHex? (cs : List Char) : Option Nat :=
  cs.foldl (fun n c => n.bind fun n => (Json.Document.hexDigit? c).map (16 * n + ·)) (some 0)

/-- A character by its number in `width` digits. -/
def numbered? (width : Nat) (cs : List Char) : Option (Char × List Char) :=
  let digits := cs.take width
  if digits.length < width then none
  else (ofHex? digits).bind fun n =>
    if n.isValidChar then some (Char.ofNat n, cs.drop width) else none

/-- The character after a backslash, and what follows it. -/
def escaped? : List Char → Option (Char × List Char)
  | [] => none
  | e :: rest =>
    match e with
    | '0' => some ('\x00', rest)
    | 'a' => some ('\x07', rest)
    | 'b' => some ('\x08', rest)
    | 't' => some ('\t', rest)
    | '\t' => some ('\t', rest)
    | 'n' => some ('\n', rest)
    | 'v' => some ('\x0b', rest)
    | 'f' => some ('\x0c', rest)
    | 'r' => some ('\r', rest)
    | 'e' => some ('\x1b', rest)
    | ' ' => some (' ', rest)
    | '"' => some ('"', rest)
    | '/' => some ('/', rest)
    | '\\' => some ('\\', rest)
    | 'N' => some ('\u0085', rest)
    | '_' => some ('\u00a0', rest)
    | 'L' => some ('\u2028', rest)
    | 'P' => some ('\u2029', rest)
    | 'x' => numbered? 2 rest
    | 'u' => numbered? 4 rest
    | 'U' => numbered? 8 rest
    | _ => none

/-- How a word within quotes ends: at the closing quote, at a blank, or at a line break that is
escaped. -/
inductive Stop where
  | quote
  | blank
  | escapedBreak

/-- The characters up to the next blank or the closing quote, put in front of `word` in reverse. -/
def readWord (single : Bool) (word : List Char) :
    Nat → List Char → Option (List Char × Stop × List Char)
  | 0, _ => none
  | fuel + 1, cs =>
    match cs with
    | [] => some (word, .blank, [])
    | c :: rest =>
      if isBlank c || isBreak c then some (word, .blank, cs)
      else if single then
        if c = '\'' then
          match rest with
          | '\'' :: rest => readWord single ('\'' :: word) fuel rest
          | rest => some (word, .quote, rest)
        else readWord single (c :: word) fuel rest
      else if c = '"' then some (word, .quote, rest)
      else if c = '\\' then
        if rest.head?.any isBreak then some (word, .escapedBreak, rest)
        else (escaped? rest).bind fun (e, rest) => readWord single (e :: word) fuel rest
      else readWord single (c :: word) fuel rest

/-- The text for a run of blanks and breaks between words. After an escaped break there is no line
to fold, so each further break stands for itself. -/
def between (escapedBreak : Bool) (run : List Char) : List Char :=
  match breakTexts run with
  | [] => if escapedBreak then [] else run
  | breaks => if escapedBreak then breaks.drop 1 else folded breaks

/-- The scalar up to its closing quote; `text` comes before it, in reverse. A line that is a mark
between documents may not stand inside. -/
def readFrom (single : Bool) (text : List Char) :
    Nat → Bool → List Char → Option (List Char × List Char)
  | 0, _, _ => none
  | fuel + 1, lineStart, cs =>
    if cs.isEmpty || (lineStart && documentMark cs) then none
    else (readWord single text (cs.length + 1) cs).bind fun (text, stop, rest) =>
      match stop with
      | .quote => some (text.reverse, rest)
      | .blank | .escapedBreak =>
        let run := rest.takeWhile fun c => isBlank c || isBreak c
        let escapedBreak := match stop with
          | .escapedBreak => true
          | _ => false
        readFrom single ((between escapedBreak run).reverse ++ text) fuel
          (run.getLast?.any isBreak) (rest.drop run.length)

/-- A scalar after its opening quote. -/
def read (single : Bool) (cs : List Char) : Option (String × List Char) :=
  (readFrom single [] (cs.length + 1) false cs).map fun (text, rest) => (String.ofList text, rest)

end BroadcastFilter.Yaml.Quoted
