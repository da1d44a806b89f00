import BroadcastFilter.Yaml.Character

/-!
Places in a text: what is left of it, and how many characters and lines lie before.
-/

namespace BroadcastFilter.Yaml

structure Cursor where
  rest : List Char
  /-- Characters before. -/
  index : Nat
  line : Nat
  column : Nat
deriving Inhabited

namespace Cursor

def start (cs : List Char) : Cursor := ⟨cs, 0, 0, 0⟩

/-- Past the next character. A line break of two characters counts as a line once. -/
def next (c : Cursor) : Cursor :=
  match c.rest with
  | [] => c
  | a :: rest =>
    if isBreak a && !(a == '\r' && rest.head? == some '\n') then ⟨rest, c.index + 1, c.line + 1, 0⟩
    else ⟨rest, c.index + 1, c.line, c.column + 1⟩

/-- Past `n` characters. -/
def advance (c : Cursor) : Nat → Cursor
  | 0 => c
  | n + 1 => c.next.advance n

/-- At the place where only `rest`, an end of the text, is left. -/
def goTo (c : Cursor) (rest : List Char) : Cursor := c.advance (c.rest.length - rest.length)

/-- Past all characters of a class. -/
def skipWhile (p : Char → Bool) (c : Cursor) : Cursor := c.goTo (c.rest.dropWhile p)

end Cursor

/-- The texts that the line breaks in a run of blanks stand for. Separators of lines and paragraphs
stand for themselves, all other breaks for a line feed. -/
def breakTexts : List Char → List Char
  | '\r' :: '\n' :: rest => '\n' :: breakTexts rest
  | c :: rest =>
    if c == '\u2028' || c == '\u2029' then c :: breakTexts rest
    else if isBreak c then '\n' :: breakTexts rest
    else breakTexts rest
  | [] => []

/-- The text between two words for the breaks between them: a single line feed becomes a space, and
of several the first is dropped. -/
def folded : List Char → List Char
  | '\n' :: [] => [' ']
  | '\n' :: more => more
  | breaks => breaks

/-- The line is a mark between documents. -/
def documentMark (cs : List Char) : Bool :=
  ("---".toList.isPrefixOf cs || "...".toList.isPrefixOf cs) && blankNext (cs.drop 3)

/-- The column after a run of blanks that has a line break, which is the count of blanks after the
last break. -/
def columnAfter (run : List Char) : Nat := (run.reverse.takeWhile fun c => !isBreak c).length

end BroadcastFilter.Yaml
