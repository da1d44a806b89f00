import BroadcastFilter.Regex.Expr
import BroadcastFilter.Unicode.Character

/-!
Reading the written form of a regular expression. Every function takes the characters still to be
read and gives them back less what it took; `none` says that the text is no expression. With the
`spaced` flag on, blanks and comments between parts are skipped. Groups are kept on a list while
they are open, so that one step reads one part and the whole is a loop over steps.
-/

namespace BroadcastFilter.Regex.Reader

open BroadcastFilter.Unicode

def isBlank (c : Char) : Bool := whiteSpace.contains c.toNat

/-- Skips blanks, and comments from a number sign to the end of the line. -/
def skipBlanks (inComment : Bool) : List Char → List Char
  | [] => []
  | c :: rest =>
    if inComment then skipBlanks (c != '\n') rest
    else if isBlank c then skipBlanks false rest
    else if c = '#' then skipBlanks true rest
    else c :: rest

/-- What follows here: with the flag on, blanks and comments do not count. -/
def skip (spaced : Bool) (cs : List Char) : List Char := if spaced then skipBlanks false cs else cs

/-- The character that decides whether a hyphen in brackets makes a range. A number sign is passed
over once, and the text of its comment is not. -/
def lookAhead (spaced : Bool) (cs : List Char) : Option Char :=
  if spaced then
    match cs.dropWhile isBlank with
    | '#' :: rest => (rest.dropWhile isBlank).head?
    | rest => (rest ++ cs).head?
  else cs.head?

def hexValue? (c : Char) : Option Nat :=
  if '0' ≤ c ∧ c ≤ '9' then some (c.toNat - 48)
  else if 'a' ≤ c ∧ c ≤ 'f' then some (c.toNat - 87)
  else if 'A' ≤ c ∧ c ≤ 'F' then some (c.toNat - 55)
  else none

/-- The character with a number, unless the number names none. -/
def charOf? (n : Nat) : Option Char := if n.isValidChar then some (Char.ofNat n) else none

/-- Exactly `count` hexadecimal digits. -/
def hexDigits (spaced : Bool) : Nat → Nat → List Char → Option (Nat × List Char)
  | 0, value, cs => some (value, cs)
  | count + 1, value, c :: rest => do
    let d ← hexValue? c
    hexDigits spaced count (value * 16 + d) (skip spaced rest)
  | _ + 1, _, [] => none

/-- Hexadecimal digits up to a closing brace; `read` tells whether there was one already. -/
def hexBraced (spaced read : Bool) (value : Nat) (fuel : Nat) (cs : List Char) :
    Option (Nat × List Char) :=
  match fuel, cs with
  | fuel + 1, c :: rest =>
    if c = '\x7d' then if read then some (value, skip spaced rest) else none
    else do
      let d ← hexValue? c
      hexBraced spaced true (value * 16 + d) fuel (skip spaced rest)
  | _, _ => none

/-- A character by number, after one of the letters `x`, `u` and `U`. -/
def hexEscape (spaced : Bool) (digits : Nat) (cs : List Char) : Option (Literal × List Char) :=
  match skip spaced cs with
  | '\x7b' :: rest => do
    let (value, rest) ← hexBraced spaced false 0 (rest.length + 1) (skip spaced rest)
    let c ← charOf? value
    some (⟨c, false⟩, rest)
  | rest => do
    let (value, rest) ← hexDigits spaced digits 0 rest
    let c ← charOf? value
    some (⟨c, digits == 2⟩, rest)

/-- Characters up to a closing brace, blanks left out where they do not count. -/
def bracedName (spaced : Bool) (fuel : Nat) (cs : List Char) : Option (List Char × List Char) :=
  match fuel, cs with
  | fuel + 1, c :: rest =>
    if c = '\x7d' then some ([], rest)
    else do
      let (name, rest) ← bracedName spaced fuel (skip spaced rest)
      some (c :: name, rest)
  | _, _ => none

/-- The parts before and after the first place where `mark` stands. -/
def splitAtMark (mark : List Char) : List Char → Option (List Char × List Char)
  | [] => none
  | c :: rest =>
    if mark.isPrefixOf (c :: rest) then some ([], (c :: rest).drop mark.length)
    else (splitAtMark mark rest).map fun (a, b) => (c :: a, b)

/-- The question of a braced property name, and whether its answer is turned round by `!=`. -/
def queryOf (name : List Char) : Query × Bool :=
  match splitAtMark ['!', '='] name with
  | some (property, value) => (.valued (String.ofList property) (String.ofList value), true)
  | none =>
    match splitAtMark [':'] name <|> splitAtMark ['='] name with
    | some (property, value) => (.valued (String.ofList property) (String.ofList value), false)
    | none => (.named (String.ofList name), false)

/-- A property class, after its letter. -/
def propertyClass (spaced negated : Bool) (cs : List Char) : Option (Expr × List Char) :=
  match skip spaced cs with
  | [] => none
  | '\x7b' :: rest => do
    let (name, rest) ← bracedName spaced (rest.length + 1) (skip spaced rest)
    let (query, turned) := queryOf name
    some (.property query (negated != turned), rest)
  | '\\' :: _ => none
  | c :: rest => some (.property (.letter c) negated, skip spaced rest)

def isMeta (c : Char) : Bool := "\\.+*?()|[]\x7b\x7d^$#&-~".toList.contains c

/-- A character that stands for itself after a backslash: all of the first 128 that are neither
letters nor digits nor angle brackets. -/
def isEscapable (c : Char) : Bool :=
  isMeta c || (c.toNat < 128 && !c.isAlphanum && c != '<' && c != '>')

/-- The letters between braces after `\b`, where there are braces with a name in them; a count
belongs to a repetition and is left alone. -/
def boundaryName (spaced : Bool) (cs : List Char) : Option (Option (List Char) × List Char) :=
  let inName (c : Char) : Bool := c.isAlpha || c == '-'
  let rec name (fuel : Nat) (cs : List Char) : List Char × List Char :=
    match fuel, cs with
    | fuel + 1, c :: rest =>
      if inName c then
        let (more, rest) := name fuel (skip spaced rest)
        (c :: more, rest)
      else ([], c :: rest)
    | _, cs => ([], cs)
  match cs with
  | '\x7b' :: rest =>
    match skip spaced rest with
    | [] => none
    | c :: more =>
      if inName c then
        match name (more.length + 1) (c :: more) with
        | (letters, '\x7d' :: rest) => some (some letters, rest)
        | _ => none
      else some (none, cs)
  | _ => some (none, cs)

/-- A word boundary, after its letter. -/
def wordBoundary (spaced : Bool) (cs : List Char) : Option (Expr × List Char) := do
  let (name, rest) ← boundaryName spaced cs
  let anchor ← match name with
    | none => some Anchor.wordBoundary
    | some letters =>
      if letters = "start".toList then some .wordStart
      else if letters = "end".toList then some .wordEnd
      else if letters = "start-half".toList then some .wordStartHalf
      else if letters = "end-half".toList then some .wordEndHalf
      else none
  some (.anchor anchor, rest)

/-- What a backslash begins; `cs` starts after it. -/
def escape (spaced : Bool) (cs : List Char) : Option (Expr × List Char) :=
  let plain (c : Char) (rest : List Char) : Option (Expr × List Char) :=
    some (.literal ⟨c, false⟩, rest)
  match cs with
  | [] => none
  | c :: rest =>
    match c with
    | 'x' => (hexEscape spaced 2 rest).map fun (l, rest) => (.literal l, rest)
    | 'u' => (hexEscape spaced 4 rest).map fun (l, rest) => (.literal l, rest)
    | 'U' => (hexEscape spaced 8 rest).map fun (l, rest) => (.literal l, rest)
    | 'p' => propertyClass spaced false rest
    | 'P' => propertyClass spaced true rest
    | 'd' => some (.shorthand .digit false, rest)
    | 's' => some (.shorthand .space false, rest)
    | 'w' => some (.shorthand .word false, rest)
    | 'D' => some (.shorthand .digit true, rest)
    | 'S' => some (.shorthand .space true, rest)
    | 'W' => some (.shorthand .word true, rest)
    | 'a' => plain '\x07' rest
    | 'f' => plain '\x0c' rest
    | 't' => plain '\t' rest
    | 'n' => plain '\n' rest
    | 'r' => plain '\r' rest
    | 'v' => plain '\x0b' rest
    | 'A' => some (.anchor .textStart, rest)
    | 'z' => some (.anchor .textEnd, rest)
    | 'b' => wordBoundary spaced rest
    | 'B' => some (.anchor .notWordBoundary, rest)
    | '<' => some (.anchor .wordStart, rest)
    | '>' => some (.anchor .wordEnd, rest)
    | _ => if isEscapable c then plain c rest else none

def asciiClass? (name : String) : Option AsciiClass :=
  match name with
  | "alnum" => some .alnum
  | "alpha" => some .alpha
  | "ascii" => some .ascii
  | "blank" => some .blank
  | "cntrl" => some .cntrl
  | "digit" => some .digit
  | "graph" => some .graph
  | "lower" => some .lower
  | "print" => some .print
  | "punct" => some .punct
  | "space" => some .space
  | "upper" => some .upper
  | "word" => some .word
  | "xdigit" => some .xdigit
  | _ => none

/-- A named class, after its opening bracket. A text that is no such class is left to be read as a
nested bracket. -/
def namedClass (cs : List Char) : Option (ClassBody × List Char) :=
  match cs with
  | ':' :: rest =>
    let (negated, rest) := match rest with
      | '^' :: rest => (true, rest)
      | rest => (false, rest)
    match rest.span (· != ':') with
    | (name, ':' :: ']' :: rest) =>
      (asciiClass? (String.ofList name)).map fun kind => (.ascii kind negated, rest)
    | _ => none
  | _ => none

/-- One item in brackets that may begin or end a range. -/
def classItem (spaced : Bool) (cs : List Char) : Option (Expr × List Char) :=
  match cs with
  | [] => none
  | '\\' :: rest => escape spaced rest
  | c :: rest => some (.literal ⟨c, false⟩, rest)

/-- An item or a range. A hyphen makes no range before a closing bracket or another hyphen. -/
def classItemOrRange (spaced : Bool) (cs : List Char) : Option (ClassBody × List Char) := do
  let (first, rest) ← classItem spaced cs
  let alone : Option ClassBody := match first with
    | .literal l => some (.literal l)
    | .shorthand kind negated => some (.shorthand kind negated)
    | .property query negated => some (.property query negated)
    | _ => none
  match skip spaced rest with
  | [] => none
  | '-' :: more =>
    let next := lookAhead spaced more
    if next = some ']' ∨ next = some '-' then alone.map fun item => (item, '-' :: more)
    else
      match skip spaced more with
      | [] => none
      | more =>
        let (last, rest) ← classItem spaced more
        match first, last with
        | .literal a, .literal b =>
          if a.char ≤ b.char then some (.range a b, rest) else none
        | _, _ => none
  | rest => alone.map fun item => (item, rest)

/-- Hyphens at the start of a bracket, which stand for themselves. -/
def leadingHyphens (spaced : Bool) (fuel : Nat) (cs : List Char) : List ClassBody × List Char :=
  match fuel, cs with
  | fuel + 1, '-' :: rest =>
    let (items, rest) := leadingHyphens spaced fuel (skip spaced rest)
    (.literal ⟨'-', false⟩ :: items, rest)
  | _, cs => ([], cs)

/-- The start of a bracket, after the bracket itself: whether it is negated, and the hyphens or the
closing bracket that stand for themselves there. -/
def bracketStart (spaced : Bool) (cs : List Char) : Bool × List ClassBody × List Char :=
  let (negated, cs) := match skip spaced cs with
    | '^' :: rest => (true, skip spaced rest)
    | cs => (false, cs)
  match leadingHyphens spaced cs.length cs with
  | ([], ']' :: rest) => (negated, [.literal ⟨']', false⟩], skip spaced rest)
  | (items, rest) => (negated, items, rest)

/-- A set operation at the start of the text. -/
def setOperation? : List Char → Option (SetOperation × List Char)
  | '&' :: '&' :: rest => some (.intersection, rest)
  | '-' :: '-' :: rest => some (.difference, rest)
  | '~' :: '~' :: rest => some (.symmetricDifference, rest)
  | _ => none

/-- The items read so far, as the right side of the operation before them if there is one. -/
def closeItems (pending : Option (SetOperation × ClassBody)) (items : List ClassBody) : ClassBody :=
  let body := ClassBody.ofItems items.reverse
  match pending with
  | none => body
  | some (op, left) => .operation op left body

mutual

/-- A bracket, after its opening character. -/
def bracket (spaced : Bool) (fuel : Nat) (cs : List Char) :
    Option ((Bool × ClassBody) × List Char) :=
  match fuel with
  | 0 => none
  | fuel + 1 => do
    let (negated, items, rest) := bracketStart spaced cs
    let (body, rest) ← bracketRest spaced fuel none items.reverse rest
    some ((negated, body), rest)

/-- The rest of a bracket: items are collected in reverse until it closes. Operations bind to the
left and all alike. -/
def bracketRest (spaced : Bool) (fuel : Nat) (pending : Option (SetOperation × ClassBody))
    (items : List ClassBody) (cs : List Char) : Option (ClassBody × List Char) :=
  match fuel with
  | 0 => none
  | fuel + 1 =>
    match skip spaced cs with
    | [] => none
    | ']' :: rest => some (closeItems pending items, rest)
    | '[' :: rest =>
      match namedClass rest with
      | some (item, rest) => bracketRest spaced fuel pending (item :: items) rest
      | none => do
        let ((negated, body), rest) ← bracket spaced fuel rest
        bracketRest spaced fuel pending (.bracketed negated body :: items) rest
    | cs =>
      match setOperation? cs with
      | some (op, rest) => bracketRest spaced fuel (some (op, closeItems pending items)) [] rest
      | none => do
        let (item, rest) ← classItemOrRange spaced cs
        bracketRest spaced fuel pending (item :: items) rest

end

/-- A decimal number of 32 bits, blanks around it skipped. -/
def decimal (spaced : Bool) (cs : List Char) : Option (Nat × List Char) :=
  let rec digits (fuel : Nat) (cs : List Char) : List Char × List Char :=
    match fuel, cs with
    | fuel + 1, c :: rest =>
      if c.isDigit then
        let (more, rest) := digits fuel (skip spaced rest)
        (c :: more, rest)
      else ([], c :: rest)
    | _, cs => ([], cs)
  let cs := cs.dropWhile isBlank
  match digits cs.length cs with
  | ([], _) => none
  | (ds, rest) =>
    let value := ds.foldl (fun n d => n * 10 + (d.toNat - 48)) 0
    if value < UInt32.size then
      some (value, if (rest.head?.map isBlank).getD false then skip spaced (rest.dropWhile isBlank)
        else rest)
    else none

/-- The bounds of a counted repetition, after the opening brace. -/
def counts (spaced : Bool) (cs : List Char) : Option ((Nat × Option Nat) × List Char) := do
  let (least, rest) ← decimal spaced (skip spaced cs)
  match rest with
  | '\x7d' :: rest => some ((least, some least), rest)
  | ',' :: rest =>
    match skip spaced rest with
    | '\x7d' :: rest => some ((least, none), rest)
    | rest => do
      let (most, rest) ← decimal spaced rest
      match rest with
      | '\x7d' :: rest => if least ≤ most then some ((least, some most), rest) else none
      | _ => none
  | _ => none

def flag? (c : Char) : Option Flag :=
  match c with
  | 'i' => some .caseInsensitive
  | 'm' => some .multiLine
  | 's' => some .dotMatchesLineEnd
  | 'U' => some .swapGreed
  | 'u' => some .unicode
  | 'R' => some .crlf
  | 'x' => some .spaced
  | _ => none

/-- Flags up to a colon or a closing parenthesis, which is given back as well. No flag may come
twice, and a hyphen comes at most once and never last. -/
def flagChanges (on : Bool) (hyphen : Bool) (seen : FlagChanges) :
    List Char → Option (FlagChanges × Char × List Char)
  | [] => none
  | c :: rest =>
    if c = ':' ∨ c = ')' then if hyphen then none else some (seen.reverse, c, rest)
    else if c = '-' then if on then flagChanges false true seen rest else none
    else do
      let flag ← flag? c
      if seen.any (·.1 = flag) then none
      else flagChanges on false ((flag, on) :: seen) rest

/-- The letters of a group name: letters of any script and underscores, after the first also
numbers, dots and brackets. -/
def inGroupName (isFirst : Bool) (c : Char) : Bool :=
  if isFirst then c == '_' || alphabetic.contains c.toNat
  else c == '_' || c == '.' || c == '[' || c == ']' || alphanumeric.contains c.toNat

/-- A group name up to its closing angle bracket. -/
def groupName (cs : List Char) : Option (String × List Char) :=
  match cs.span (· != '>') with
  | (first :: more, '>' :: rest) =>
    if inGroupName true first && more.all (inGroupName false) then
      some (String.ofList (first :: more), rest)
    else none
  | _ => none

/-- What an opening parenthesis begins. -/
inductive Opening where
  | flags (changes : FlagChanges)
  | group (captures : Bool) (name : Option String) (changes : FlagChanges)

/-- The start of a group, after its parenthesis. Looking around is not supported. -/
def opening (spaced : Bool) (cs : List Char) : Option (Opening × List Char) :=
  match skip spaced cs with
  | '?' :: '=' :: _ => none
  | '?' :: '!' :: _ => none
  | '?' :: '<' :: '=' :: _ => none
  | '?' :: '<' :: '!' :: _ => none
  | '?' :: 'P' :: '<' :: rest =>
    (groupName rest).map fun (name, rest) => (.group true (some name) [], rest)
  | '?' :: '<' :: rest =>
    (groupName rest).map fun (name, rest) => (.group true (some name) [], rest)
  | '?' :: rest => do
    let (changes, last, rest) ← flagChanges true false [] rest
    if last = ')' then if changes.isEmpty then none else some (.flags changes, rest)
    else some (.group false none changes, rest)
  | rest => some (.group true none [], rest)

/-- Whether blanks are skipped after flags have changed. -/
def spacedAfter (spaced : Bool) (changes : FlagChanges) : Bool :=
  match changes.find? (·.1 = .spaced) with
  | some (_, on) => on
  | none => spaced

/-- An open group: what stood before it and how it began. -/
structure Outer where
  items : List Expr
  branches : List Expr
  spaced : Bool
  captures : Bool
  changes : FlagChanges

/-- How far an expression has been read. Items of the current branch and finished branches are kept
in reverse. -/
structure State where
  rest : List Char
  spaced : Bool := false
  items : List Expr := []
  branches : List Expr := []
  outer : List Outer := []
  names : List String := []

/-- The expression of the current branch and the branches before it. -/
def State.body (s : State) : Expr :=
  Expr.ofBranches ((Expr.ofItems s.items.reverse :: s.branches).reverse)

/-- Repeats the last item. Flags cannot be repeated. -/
def State.repeatLast (s : State) (least : Nat) (most : Option Nat) (rest : List Char) :
    Option State :=
  match s.items with
  | [] => none
  | .flags _ :: _ => none
  | item :: items => some { s with items := .repetition least most item :: items, rest }

/-- Skips the mark of a repetition that prefers fewer rounds: it makes no difference to whether
there is a match. -/
def lazyMark : List Char → List Char
  | '?' :: rest => rest
  | rest => rest

/-- Reads one part. -/
def step (s : State) : Option State :=
  match s.rest with
  | [] => some s
  | '(' :: rest => do
    let (opening, rest) ← opening s.spaced rest
    match opening with
    | .flags changes =>
      some { s with
        rest, items := .flags changes :: s.items, spaced := spacedAfter s.spaced changes }
    | .group captures name changes =>
      if name.any s.names.contains then none
      else some {
        rest
        spaced := spacedAfter s.spaced changes
        outer := ⟨s.items, s.branches, s.spaced, captures, changes⟩ :: s.outer
        names := name.toList ++ s.names }
  | ')' :: rest =>
    match s.outer with
    | [] => none
    | o :: outer =>
      some { s with
        rest, outer, spaced := o.spaced, branches := o.branches
        items := .group o.captures o.changes s.body :: o.items }
  | '|' :: rest =>
    some { s with rest, items := [], branches := Expr.ofItems s.items.reverse :: s.branches }
  | '[' :: rest => do
    let ((negated, body), rest) ← bracket s.spaced (2 * rest.length + 2) rest
    some { s with rest, items := .bracketed negated body :: s.items }
  | '?' :: rest => s.repeatLast 0 (some 1) (lazyMark rest)
  | '*' :: rest => s.repeatLast 0 none (lazyMark rest)
  | '+' :: rest => s.repeatLast 1 none (lazyMark rest)
  | '\x7b' :: rest => do
    let ((least, most), rest) ← counts s.spaced rest
    s.repeatLast least most (lazyMark (skip s.spaced rest))
  | '.' :: rest => some { s with rest, items := .dot :: s.items }
  | '^' :: rest => some { s with rest, items := .anchor .lineStart :: s.items }
  | '$' :: rest => some { s with rest, items := .anchor .lineEnd :: s.items }
  | '\\' :: rest => do
    let (item, rest) ← escape s.spaced rest
    some { s with rest, items := item :: s.items }
  | c :: rest => some { s with rest, items := .literal ⟨c, false⟩ :: s.items }

/-- Steps until nothing is left; every step takes a character. -/
def run (fuel : Nat) (s : State) : Option State :=
  match fuel, { s with rest := skip s.spaced s.rest } with
  | fuel + 1, s => if s.rest.isEmpty then some s else (step s).bind (run fuel)
  | 0, _ => none

/-- Groups and brackets may nest this deep. -/
def deepest : Nat := 250

/-- The expression that a pattern writes. -/
def read (pattern : String) : Option Expr := do
  let cs := pattern.toList
  let s ← run (cs.length + 1) { rest := cs }
  if s.outer.isEmpty && s.body.depth ≤ deepest then some s.body else none

end BroadcastFilter.Regex.Reader
