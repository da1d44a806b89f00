import BroadcastFilter.Yaml.Cursor

/-!
Literal and folded blocks: lines that are indented below a header. The header may say how far they
are indented and what becomes of the breaks at the end.
-/

namespace BroadcastFilter.Yaml.Block

/-- What becomes of the line breaks after the last line. -/
inductive Chomping where
  | strip
  | clip
  | keep
deriving DecidableEq, Inhabited

structure Header where
  chomping : Chomping
  /-- How much more than its surroundings the block is indented, if the header says so. -/
  indent : Option Nat
deriving Inhabited

def chomping? : List Char → Option (Chomping × List Char)
  | '+' :: rest => some (.keep, rest)
  | '-' :: rest => some (.strip, rest)
  | _ => none

/-- An indentation in the header; nought is none. -/
def indentation? : List Char → Option (Option Nat × List Char)
  | c :: rest =>
    if isDigit c then if c = '0' then none else some (some (c.toNat - 48), rest)
    else some (none, c :: rest)
  | [] => some (none, [])

/-- The header after the mark of the block, up to the line break. -/
def readHeader (cs : List Char) : Option (Header × List Char) := do
  let (header, cs) ← match chomping? cs with
    | some (chomping, rest) => do
      let (indent, rest) ← indentation? rest
      some ((⟨chomping, indent⟩ : Header), rest)
    | none => do
      let (indent, rest) ← indentation? cs
      match indent, chomping? rest with
      | some n, some (chomping, rest) => some (⟨chomping, some n⟩, rest)
      | _, _ => some (⟨.clip, indent⟩, rest)
  let cs := cs.dropWhile isBlank
  let cs := match cs with
    | '#' :: rest => rest.dropWhile fun c => !isBreak c
    | _ => cs
  if breakNext cs then some (header, cs) else none

/-- What one line break at the start of a text stands for, and what follows it. -/
def takeBreak? : List Char → Option (Char × List Char)
  | '\r' :: '\n' :: rest => some ('\n', rest)
  | c :: rest =>
    if c == '\u2028' || c == '\u2029' then some (c, rest)
    else if isBreak c then some ('\n', rest)
    else none
  | [] => none

/-- The spaces at the start of a text, up to so many if there is a limit. -/
def takeSpaces (limit : Option Nat) (cs : List Char) : Nat × List Char :=
  let all := (cs.takeWhile (· == ' ')).length
  let n := match limit with
    | some k => min k all
    | none => all
  (n, cs.drop n)

/-- Empty lines: the breaks that end them, the greatest number of spaces seen in one line, and the
spaces of the line where they stop. A tab may not stand in place of the indentation. -/
def emptyLines (indent : Option Nat) (breaks : List Char) (widest : Nat) :
    Nat → List Char → Option (List Char × Nat × Nat × List Char)
  | 0, _ => none
  | fuel + 1, cs =>
    let (n, rest) := takeSpaces indent cs
    let widest := max widest n
    if indent.all (n < ·) && rest.head? == some '\t' then none
    else match takeBreak? rest with
      | some (b, rest) => emptyLines indent (b :: breaks) widest fuel rest
      | none => some (breaks.reverse, widest, n, rest)

/-- Text so far, in reverse; the break that ended the last line; and whether that line began with a
blank. -/
structure Lines where
  text : List Char
  ending : Option Char
  blankStart : Bool

/-- The text between the last line and one that begins with a blank or not. Folding turns a single
line feed between two lines that begin with no blank into a space. -/
def joint (literal : Bool) (before : Lines) (breaks : List Char) (blank : Bool) : List Char :=
  if !literal && before.ending == some '\n' && !before.blankStart && !blank then
    if breaks.isEmpty then [' '] else breaks
  else before.ending.toList ++ breaks

/-- The lines at column `indent`; `breaks` are those of empty lines before, `column` is where the
text stands. -/
def readLines (literal : Bool) (indent : Nat) :
    Nat → Lines → List Char → Nat → List Char → Option (Lines × List Char × List Char × Nat)
  | 0, _, _, _, _ => none
  | fuel + 1, before, breaks, column, cs =>
    if column ≠ indent || cs.isEmpty then some (before, breaks, cs, column)
    else
      let blank := cs.head?.any isBlank
      let line := cs.takeWhile fun c => !isBreak c
      let rest := cs.drop line.length
      let text := line.reverse ++ (joint literal before breaks blank).reverse ++ before.text
      let (ending, rest) := match takeBreak? rest with
        | some (b, rest) => (some b, rest)
        | none => (none, rest)
      (emptyLines (some indent) [] 0 (rest.length + 1) rest).bind fun (breaks, _, column, rest) =>
        readLines literal indent fuel ⟨text, ending, blank⟩ breaks column rest

/-- A block after its mark, in surroundings indented by `indent`, less than nothing at the top. -/
def read (literal : Bool) (indent : Int) (cs : List Char) : Option (String × List Char) := do
  let (header, cs) ← readHeader cs
  let cs := match takeBreak? cs with
    | some (_, rest) => rest
    | none => cs
  let given := header.indent.map fun n => (max indent 0).toNat + n
  let (breaks, widest, column, cs) ← emptyLines given [] 0 (cs.length + 1) cs
  let width := given.getD (max (max widest (indent + 1).toNat) 1)
  let (lines, breaks, rest, _) ←
    readLines literal width (cs.length + 1) ⟨[], none, false⟩ breaks column cs
  let tail := match header.chomping with
    | .strip => []
    | .clip => lines.ending.toList
    | .keep => lines.ending.toList ++ breaks
  some (String.ofList (lines.text.reverse ++ tail), rest)

end BroadcastFilter.Yaml.Block
