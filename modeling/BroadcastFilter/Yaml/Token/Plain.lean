import BroadcastFilter.Yaml.Cursor

/-!
Plain scalars: words without quotes. A scalar goes on over lines as long as they are indented more
than what it stands in. Brackets and commas end it within brackets only.
-/

namespace BroadcastFilter.Yaml.Plain

/-- Characters that end a scalar within brackets. -/
def closes (c : Char) : Bool := [',', '[', ']', '\x7b', '\x7d'].contains c

/-- The characters of one word, put in front of `word` in reverse, and what follows. Within brackets
a colon may not come before a bracket, comma or question mark. -/
def readWord (flow : Bool) (word : List Char) : List Char → Option (List Char × List Char)
  | [] => some (word, [])
  | c :: rest =>
    if isBlank c || isBreak c then some (word, c :: rest)
    else if flow && c == ':' && rest.head?.any fun d => closes d || d == '?' then none
    else if (c == ':' && blankNext rest) || (flow && closes c) then some (word, c :: rest)
    else readWord flow (c :: word) rest

/-- After the first break of a run, a tab stands left of the indentation; `column` is where the run
has got to. -/
def tabTooFarLeft (indent : Nat) : Option Nat → List Char → Bool
  | _, [] => false
  | column, c :: rest =>
    if isBreak c then tabTooFarLeft indent (some 0) rest
    else (c == '\t' && column.any (· < indent)) || tabTooFarLeft indent (column.map (· + 1)) rest

/-- A plain scalar: its text, and whether it was left at the start of a line. -/
structure Result where
  text : List Char
  newLine : Bool
  rest : List Char

/-- Reads on after `text`, which is in reverse, and after `gap`, the text for what lies between. -/
def readFrom (flow : Bool) (indent : Nat) (text gap : List Char) (newLine atLineStart : Bool) :
    Nat → List Char → Option Result
  | 0, _ => none
  | fuel + 1, cs =>
    let stop : Option Result := some ⟨text.reverse, newLine, cs⟩
    if (atLineStart && documentMark cs) || cs.head? == some '#' then stop
    else (readWord flow [] cs).bind fun (word, rest) =>
      let text := if word.isEmpty then text else word ++ gap.reverse ++ text
      let newLine := word.isEmpty && newLine
      let run := rest.takeWhile fun c => isBlank c || isBreak c
      let rest := rest.drop run.length
      if run.isEmpty then some ⟨text.reverse, newLine, rest⟩
      else if tabTooFarLeft indent none run then none
      else
        let breaks := breakTexts run
        let gap := if breaks.isEmpty then run else folded breaks
        let newLine := !breaks.isEmpty
        if newLine && !flow && columnAfter run < indent then some ⟨text.reverse, true, rest⟩
        else readFrom flow indent text gap newLine (run.getLast?.any isBreak) fuel rest

/-- A plain scalar within a block indented by `indent`, less than nothing at the top. -/
def read (flow : Bool) (indent : Int) (cs : List Char) : Option Result :=
  readFrom flow (indent + 1).toNat [] [] false false (cs.length + 1) cs

end BroadcastFilter.Yaml.Plain
