import BroadcastFilter.Yaml.Token.Block
import BroadcastFilter.Yaml.Token.Plain
import BroadcastFilter.Yaml.Token.Property
import BroadcastFilter.Yaml.Token.Quoted

/-!
The tokens of a text. Whether a scalar is a key shows only when a colon follows it, on the same line
and not too far away, so the tokens from a possible key on are held back until that is known. If the
text stops being readable, the tokens held back are lost with the rest, and the list ends without
the token for the end of the stream.
-/

namespace BroadcastFilter.Yaml

/-- A place at which a key may have begun. -/
structure PossibleKey where
  /-- The number of the key's first token. -/
  token : Nat
  index : Nat
  line : Nat
  column : Nat
  /-- Nothing else than a key may stand there. -/
  required : Bool
deriving Inhabited

structure Lexer where
  place : Cursor
  /-- Tokens so far, the last one first. -/
  tokens : List Token
  count : Nat
  /-- The column of the innermost block, less than nothing at the top. -/
  indent : Int
  outerIndents : List Int
  /-- The possible key within each open pair of brackets, the innermost first, and the one outside. -/
  keys : List (Option PossibleKey)
  /-- A key may begin here. -/
  keyAllowed : Bool
  /-- How many tokens are not held back. -/
  released : Nat
deriving Inhabited

namespace Lexer

def start (cs : List Char) : Lexer := ⟨.start cs, [], 0, -1, [], [none], true, 0⟩

/-- Between brackets. -/
def inFlow (s : Lexer) : Bool := 1 < s.keys.length

def push (s : Lexer) (t : Token) : Lexer :=
  { s with tokens := t :: s.tokens, count := s.count + 1 }

/-- Puts a token in at a number. -/
def insertAt (s : Lexer) (number : Nat) (t : Token) : Lexer :=
  let later := s.count - number
  { s with tokens := s.tokens.take later ++ t :: s.tokens.drop later, count := s.count + 1 }

/-- The greatest distance, in characters, between the start of a key and its colon. -/
def longestKey : Nat := 1024

def isStale (c : Cursor) (k : PossibleKey) : Bool :=
  k.line < c.line || k.index + longestKey < c.index

/-- Gives up the possible keys that are too far back, unless one of them is required. -/
def dropStale (s : Lexer) : Option Lexer :=
  if s.keys.any fun k => k.any fun k => isStale s.place k && k.required then none
  else some { s with keys := s.keys.map fun k => k.filter fun k => !isStale s.place k }

/-- Gives up the innermost possible key. -/
def dropKey (s : Lexer) : Option Lexer :=
  match s.keys with
  | some k :: rest => if k.required then none else some { s with keys := none :: rest }
  | _ => some s

/-- Remembers that a key may begin here. -/
def saveKey (s : Lexer) : Option Lexer :=
  if s.keyAllowed then
    let c := s.place
    let key : PossibleKey :=
      ⟨s.count, c.index, c.line, c.column, !s.inFlow && s.indent == (c.column : Int)⟩
    s.dropKey.map fun s => { s with keys := some key :: s.keys.drop 1 }
  else some s

/-- Opens a block at a column that lies further right; its token is put in at a number. -/
def openBlock (s : Lexer) (column number : Nat) (t : Token) : Lexer :=
  if !s.inFlow && s.indent < (column : Int) then
    { s.insertAt number t with indent := column, outerIndents := s.indent :: s.outerIndents }
  else s

/-- Closes the blocks that lie right of a column. -/
def closeBlocks (column : Int) (indent : Int) (outer : List Int) (s : Lexer) : Lexer :=
  match outer with
  | [] => { s with indent := indent, outerIndents := [] }
  | next :: rest =>
    if column < indent then closeBlocks column next rest (s.push .blockEnd)
    else { s with indent := indent, outerIndents := outer }

def closeTo (s : Lexer) (column : Int) : Lexer :=
  if s.inFlow then s else closeBlocks column s.indent s.outerIndents s

/-- Past blanks, comments and line breaks to where the next token begins. Tabs may not stand where a
key may begin, except between brackets. -/
def skipToToken (flow : Bool) : Nat → Bool → Cursor → Bool × Cursor
  | 0, keyAllowed, c => (keyAllowed, c)
  | fuel + 1, keyAllowed, c =>
    let c := if c.index = 0 && c.rest.head? == some '\ufeff' then c.next else c
    let c := c.skipWhile fun a => a == ' ' || ((flow || !keyAllowed) && a == '\t')
    let c := if c.rest.head? == some '#' then c.skipWhile fun a => !isBreak a else c
    match Block.takeBreak? c.rest with
    | some (_, rest) => skipToToken flow fuel (keyAllowed || !flow) (c.goTo rest)
    | none => (keyAllowed, c)

/-- A token that ends at `rest`. -/
def pushTo (s : Lexer) (t : Token) (rest : List Char) : Lexer :=
  { s.push t with place := s.place.goTo rest }

def directive (s : Lexer) : Option Lexer := do
  let s ← (s.closeTo (-1)).dropKey
  let s := { s with keyAllowed := false }
  let (t, rest) ← Property.readDirective (s.place.rest.drop 1)
  some (s.pushTo t rest)

/-- A mark between documents. -/
def documentMark (s : Lexer) (t : Token) : Option Lexer := do
  let s ← (s.closeTo (-1)).dropKey
  some ({ s with keyAllowed := false }.pushTo t (s.place.rest.drop 3))

def openFlow (s : Lexer) (t : Token) (rest : List Char) : Option Lexer :=
  s.saveKey.map fun s => { s with keys := none :: s.keys, keyAllowed := true }.pushTo t rest

def closeFlow (s : Lexer) (t : Token) (rest : List Char) : Option Lexer :=
  s.dropKey.map fun s =>
    let keys := if s.inFlow then s.keys.drop 1 else s.keys
    { s with keys := keys, keyAllowed := false }.pushTo t rest

def flowEntry (s : Lexer) (rest : List Char) : Option Lexer :=
  s.dropKey.map fun s => { s with keyAllowed := true }.pushTo .flowEntry rest

def blockEntry (s : Lexer) (rest : List Char) : Option Lexer :=
  if !s.inFlow && !s.keyAllowed then none
  else
    let s := s.openBlock s.place.column s.count .blockSequenceStart
    s.dropKey.map fun s => { s with keyAllowed := true }.pushTo .blockEntry rest

/-- The mark of a key that has one. -/
def explicitKey (s : Lexer) (rest : List Char) : Option Lexer :=
  if !s.inFlow && !s.keyAllowed then none
  else
    let s := s.openBlock s.place.column s.count .blockMappingStart
    s.dropKey.map fun s => { s with keyAllowed := !s.inFlow }.pushTo .key rest

/-- The mark of a value. What was a possible key is one now. -/
def value (s : Lexer) (rest : List Char) : Option Lexer :=
  match s.keys.headD none with
  | some k =>
    let s := (s.insertAt k.token .key).openBlock k.column k.token .blockMappingStart
    some ({ s with keys := none :: s.keys.drop 1, keyAllowed := false }.pushTo .value rest)
  | none =>
    if !s.inFlow && !s.keyAllowed then none
    else
      let s := s.openBlock s.place.column s.count .blockMappingStart
      some ({ s with keyAllowed := !s.inFlow }.pushTo .value rest)

/-- A token that may begin a key, and after which none may begin. -/
def keyToken (s : Lexer) (read : Option (Token × List Char)) : Option Lexer := do
  let s ← s.saveKey
  let (t, rest) ← read
  some ({ s with keyAllowed := false }.pushTo t rest)

def block (s : Lexer) (style : Style) (rest : List Char) : Option Lexer := do
  let s ← s.dropKey
  let (text, rest) ← Block.read (style == .literal) s.indent rest
  some ({ s with keyAllowed := true }.pushTo (.scalar text style) rest)

def plain (s : Lexer) : Option Lexer := do
  let s ← s.saveKey
  let found ← Plain.read s.inFlow s.indent s.place.rest
  some ({ s with keyAllowed := found.newLine }.pushTo (.scalar (String.ofList found.text) .plain)
    found.rest)

/-- Characters that begin no plain scalar. -/
def isIndicator (c : Char) : Bool :=
  ['-', '?', ':', ',', '[', ']', '\x7b', '\x7d', '#', '&', '*', '!', '|', '>', '\'', '"', '%', '@',
    '\x60'].contains c

def beginsPlain (flow : Bool) (c : Char) (rest : List Char) : Bool :=
  !(isBlankOrEnd c || isIndicator c) ||
    (c == '-' && !rest.head?.any isBlank) ||
    (!flow && (c == '?' || c == ':') && !blankNext rest)

/-- The token that begins with a character. -/
def tokenAt (s : Lexer) (c : Char) (rest : List Char) : Option Lexer :=
  let flow := s.inFlow
  let quoted (single : Bool) (style : Style) : Option (Token × List Char) :=
    (Quoted.read single rest).map fun (text, rest) => (.scalar text style, rest)
  if s.place.column = 0 ∧ c = '%' then s.directive
  else if s.place.column = 0 ∧ Yaml.documentMark (c :: rest) then
    s.documentMark (if c = '-' then .documentStart else .documentEnd)
  else if c = '[' then s.openFlow .flowSequenceStart rest
  else if c = '\x7b' then s.openFlow .flowMappingStart rest
  else if c = ']' then s.closeFlow .flowSequenceEnd rest
  else if c = '\x7d' then s.closeFlow .flowMappingEnd rest
  else if c = ',' then s.flowEntry rest
  else if c = '-' ∧ blankNext rest then s.blockEntry rest
  else if c = '?' ∧ (flow ∨ blankNext rest) then s.explicitKey rest
  else if c = ':' ∧ (flow ∨ blankNext rest) then s.value rest
  else if c = '*' then
    s.keyToken ((Property.readAnchor rest).map fun (name, rest) => (.alias name, rest))
  else if c = '&' then
    s.keyToken ((Property.readAnchor rest).map fun (name, rest) => (.anchor name, rest))
  else if c = '!' then s.keyToken (Property.readTag flow (c :: rest))
  else if c = '|' ∧ ¬ flow then s.block .literal rest
  else if c = '>' ∧ ¬ flow then s.block .folded rest
  else if c = '\'' then s.keyToken (quoted true .singleQuoted)
  else if c = '"' then s.keyToken (quoted false .doubleQuoted)
  else if beginsPlain flow c rest then s.plain
  else none

/-- The end of the text, which ends a line. -/
def finish (s : Lexer) : Option Lexer := do
  let c := s.place
  let s := { s with place := if c.column = 0 then c else ⟨c.rest, c.index, c.line + 1, 0⟩ }
  let s ← (s.closeTo (-1)).dropKey
  let s ← { s with keyAllowed := false }.push .streamEnd |>.dropStale
  some { s with released := s.count }

/-- Lets go of the tokens before the first possible key. -/
def release (s : Lexer) : Lexer :=
  let firstKey := s.keys.foldl (fun n k => k.elim n fun k => min n k.token) s.count
  { s with released := firstKey }

/-- The tokens let go, in their order. -/
def output (s : Lexer) : List Token := (s.tokens.drop (s.count - s.released)).reverse

/-- Reads token after token. -/
def run : Nat → Lexer → List Token
  | 0, s => s.output
  | fuel + 1, s =>
    match s.dropStale with
    | none => s.output
    | some s =>
      let held := s.release
      let (keyAllowed, c) := skipToToken s.inFlow (s.place.rest.length + 1) s.keyAllowed s.place
      match { held with keyAllowed := keyAllowed, place := c }.dropStale with
      | none => held.output
      | some next =>
        let next := next.closeTo c.column
        let after := match c.rest with
          | [] => next.finish
          | a :: rest => next.tokenAt a rest
        match after with
        | none => held.output
        | some s => if c.rest.isEmpty then s.output else run fuel s

end Lexer

/-- The tokens of a text. A text with a character that may not stand in it has none; a mark of the
byte order at its start is passed over. -/
def Token.ofText (text : String) : List Token :=
  let cs := text.toList
  let cs := if cs.head? == some '\ufeff' then cs.drop 1 else cs
  if cs.all isAllowed then Lexer.run (cs.length + 2) (Lexer.start cs) else []

end BroadcastFilter.Yaml
