import BroadcastFilter.Json.Number

/-!
JSON text as a tree that keeps what was read before the text stopped being JSON. The tree ends at
that place with a `broken` leaf, so that a reader who wants a certain type learns of a wrong type
that stands before the break, and of the break otherwise.

Numbers that are out of range and strings that hold half of a surrogate pair are no break: they
spoil only what asks for their value.
-/

namespace BroadcastFilter.Json

inductive Document where
  | null
  | bool (b : Bool)
  | number (n : Option Number)
  | string (s : Option String)
  | array (items : List Document)
  | object (entries : List (Option String × Document))
  | broken
deriving Inhabited

namespace Document

/-- A piece of a string: a character as it stands, or a 16-bit unit written by number. -/
inductive Piece where
  | char (c : Char)
  | unit (n : Nat)

def isHigh (n : Nat) : Bool := 0xD800 ≤ n && n ≤ 0xDBFF

def isLow (n : Nat) : Bool := 0xDC00 ≤ n && n ≤ 0xDFFF

/-- The text of pieces: two units make one character beyond the first 65536, and half of such a pair
makes none. -/
def join : List Piece → Option (List Char)
  | [] => some []
  | .char c :: rest => (join rest).map (c :: ·)
  | .unit n :: rest =>
    if isHigh n then
      match rest with
      | .unit m :: rest =>
        if isLow m then
          (join rest).map (Char.ofNat (0x10000 + (n - 0xD800) * 0x400 + (m - 0xDC00)) :: ·)
        else none
      | _ => none
    else if isLow n then none
    else (join rest).map (Char.ofNat n :: ·)

def hexDigit? (c : Char) : Option Nat :=
  if '0' ≤ c && c ≤ '9' then some (c.toNat - '0'.toNat)
  else if 'a' ≤ c && c ≤ 'f' then some (c.toNat - 'a'.toNat + 10)
  else if 'A' ≤ c && c ≤ 'F' then some (c.toNat - 'A'.toNat + 10)
  else none

def unit? (a b c d : Char) : Option Nat := do
  some ((((← hexDigit? a) * 16 + (← hexDigit? b)) * 16 + (← hexDigit? c)) * 16 + (← hexDigit? d))

/-- The character that a letter stands for after a backslash. -/
def escaped? : Char → Option Char
  | '"' => some '"'
  | '\\' => some '\\'
  | '/' => some '/'
  | 'b' => some '\x08'
  | 'f' => some '\x0c'
  | 'n' => some '\n'
  | 'r' => some '\r'
  | 't' => some '\t'
  | _ => none

/-- The pieces of a string up to its closing quote. -/
def pieces : List Char → Option (List Piece × List Char)
  | '"' :: rest => some ([], rest)
  | '\\' :: 'u' :: a :: b :: c :: d :: rest =>
    (unit? a b c d).bind fun n => (pieces rest).map fun (ps, rest) => (.unit n :: ps, rest)
  | '\\' :: e :: rest =>
    (escaped? e).bind fun c => (pieces rest).map fun (ps, rest) => (.char c :: ps, rest)
  | c :: rest =>
    if c.toNat < 0x20 || c == '\\' then none
    else (pieces rest).map fun (ps, rest) => (.char c :: ps, rest)
  | [] => none

/-- A string after its opening quote. -/
def readString (cs : List Char) : Option (Option String × List Char) :=
  (pieces cs).map fun (ps, rest) => ((join ps).map String.ofList, rest)

def isBlank (c : Char) : Bool := c == ' ' || c == '\n' || c == '\t' || c == '\r'

def skipBlanks (cs : List Char) : List Char := cs.dropWhile isBlank

mutual

/-- The value at the start of a text, and what follows it unless the text breaks off inside. -/
def readValue : Nat → List Char → Document × Option (List Char)
  | 0, _ => (.broken, none)
  | fuel + 1, cs =>
    match cs with
    | 'n' :: 'u' :: 'l' :: 'l' :: rest => (.null, some rest)
    | 't' :: 'r' :: 'u' :: 'e' :: rest => (.bool true, some rest)
    | 'f' :: 'a' :: 'l' :: 's' :: 'e' :: rest => (.bool false, some rest)
    | '"' :: rest =>
      match readString rest with
      | some (s, rest) => (.string s, some rest)
      | none => (.broken, none)
    | '[' :: rest =>
      match skipBlanks rest with
      | ']' :: rest => (.array [], some rest)
      | rest =>
        let (items, rest) := readItems fuel rest
        (.array items, rest)
    | '\x7b' :: rest =>
      match skipBlanks rest with
      | '\x7d' :: rest => (.object [], some rest)
      | rest =>
        let (entries, rest) := readEntries fuel rest
        (.object entries, rest)
    | cs =>
      match Numeral.read cs with
      | some (n, rest) => (.number n.value?, some rest)
      | none => (.broken, none)

/-- The items of an array up to its closing bracket. -/
def readItems : Nat → List Char → List Document × Option (List Char)
  | 0, _ => ([.broken], none)
  | fuel + 1, cs =>
    match readValue fuel (skipBlanks cs) with
    | (item, none) => ([item], none)
    | (item, some rest) =>
      match skipBlanks rest with
      | ']' :: rest => ([item], some rest)
      | ',' :: rest =>
        let (items, rest) := readItems fuel rest
        (item :: items, rest)
      | _ => ([item, .broken], none)

/-- The entries of an object up to its closing brace. A key that cannot be read has no text. -/
def readEntries : Nat → List Char → List (Option String × Document) × Option (List Char)
  | 0, _ => ([(none, .broken)], none)
  | fuel + 1, cs =>
    match skipBlanks cs with
    | '"' :: rest =>
      match readString rest with
      | none => ([(none, .broken)], none)
      | some (key, rest) =>
        match skipBlanks rest with
        | ':' :: rest =>
          match readValue fuel (skipBlanks rest) with
          | (value, none) => ([(key, value)], none)
          | (value, some rest) =>
            match skipBlanks rest with
            | '\x7d' :: rest => ([(key, value)], some rest)
            | ',' :: rest =>
              let (entries, rest) := readEntries fuel rest
              ((key, value) :: entries, rest)
            | _ => ([(key, value), (none, .broken)], none)
        | _ => ([(key, .broken)], none)
    | _ => ([(none, .broken)], none)

end

/-- The tree of a text, and whether nothing but blanks follows it. -/
def ofText (text : String) : Document × Bool :=
  let cs := text.toList
  let (tree, rest) := readValue (2 * cs.length + 2) (skipBlanks cs)
  (tree, rest.any fun rest => (skipBlanks rest).isEmpty)

mutual

/-- The text breaks off somewhere inside. -/
def isBroken : Document → Bool
  | .broken => true
  | .array items => anyBroken items
  | .object entries => anyEntryBroken entries
  | _ => false

def anyBroken : List Document → Bool
  | [] => false
  | item :: rest => item.isBroken || anyBroken rest

def anyEntryBroken : List (Option String × Document) → Bool
  | [] => false
  | (_, value) :: rest => value.isBroken || anyEntryBroken rest

end

mutual

/-- The value of a tree that is whole, holds nothing spoilt and nests at most `room` deep. -/
def value? (room : Nat) : Document → Option Value
  | .null => some .null
  | .bool b => some (.bool b)
  | .number n => n.map .number
  | .string s => s.map .string
  | .array items => if room = 0 then none else (values? (room - 1) items).map .array
  | .object entries =>
    if room = 0 then none else (entryValues? (room - 1) entries).map Value.ofEntries
  | .broken => none

def values? (room : Nat) : List Document → Option (List Value)
  | [] => some []
  | item :: rest => do
    let v ← item.value? room
    let vs ← values? room rest
    some (v :: vs)

def entryValues? (room : Nat) : List (Option String × Document) → Option (List (String × Value))
  | [] => some []
  | (key, value) :: rest => do
    let k ← key
    let v ← value.value? room
    let vs ← entryValues? room rest
    some ((k, v) :: vs)

end

/-- How deep a document may nest. -/
def greatestDepth : Nat := 127

end Document

/-- The value of a text. -/
def Value.ofText? (text : String) : Option Value :=
  match Document.ofText text with
  | (tree, true) => tree.value? Document.greatestDepth
  | (_, false) => none

end BroadcastFilter.Json
