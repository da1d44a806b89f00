import BroadcastFilter.Binary64.Style
import BroadcastFilter.Decode.Source
import BroadcastFilter.Json.Document

/-!
Reading from JSON, from a value or from text. The two differ where text can break off or be spoilt,
and in what they say of a list with too many items.
-/

namespace BroadcastFilter.Decode

open Json

/-- JSON keeps no places. -/
def unplaced (cause : Cause) : Error := ⟨cause, none⟩

def foundNumber : Number → Found
  | .integer n => .integer n false
  | .float x => .real (x.toText .json)

def natural (n : Number) : Except Error UInt64 :=
  match n with
  | .integer k =>
    if 0 ≤ k ∧ k < UInt64.size then .ok (UInt64.ofNat k.toNat)
    else .error (unplaced (.wrongValue (foundNumber n) .natural))
  | .float _ => .error (unplaced (.wrongType (foundNumber n) .natural))

def integer (n : Number) : Except Error Int64 :=
  match n with
  | .integer k =>
    if Int64.minValue.toInt ≤ k ∧ k ≤ Int64.maxValue.toInt then .ok (Int64.ofInt k)
    else .error (unplaced (.wrongValue (foundNumber n) .integer))
  | .float _ => .error (unplaced (.wrongType (foundNumber n) .integer))

namespace Value

def found : Value → Found
  | .null => .null
  | .bool b => .flag b
  | .number n => foundNumber n
  | .string s => .text s
  | .array _ => .sequence
  | .object _ => .map

def mismatch {A : Type} (v : Value) (wanted : Wanted) : Except Error A :=
  .error (unplaced (.wrongType (found v) wanted))

instance : Source Value where
  error _ := unplaced
  text
    | .string s => .ok s
    | v => mismatch v .text
  flag
    | .bool b => .ok b
    | v => mismatch v .flag
  natural
    | .number n => Decode.natural n
    | v => mismatch v .natural
  integer
    | .number n => Decode.integer n
    | v => mismatch v .integer
  optional
    | .null => .ok none
    | v => .ok (some v)
  items
    | .array items => .ok items
    | v => mismatch v .sequence
  parts name
    | .object entries => .ok (.keyed (entries.map fun (key, v) => (.ok key, v)))
    | .array items => .ok (.listed items)
    | v => mismatch v (.record name)
  values
    | .object entries => .ok (Dictionary.ofList entries)
    | v => mismatch v .map
  skip _ := .ok ()
  excess := .tooLong

end Value

namespace Document

/-- What a node is, if that much of it can be read. -/
def found? : Document → Option Found
  | .null => some .null
  | .bool b => some (.flag b)
  | .number n => n.map foundNumber
  | .string s => s.map .text
  | .array _ => some .sequence
  | .object _ => some .map
  | .broken => none

def mismatch {A : Type} (d : Document) (wanted : Wanted) : Except Error A :=
  .error (unplaced ((found? d).elim .unreadable (.wrongType · wanted)))

def readable {A : Type} : Option A → Except Error A
  | some a => .ok a
  | none => .error (unplaced .unreadable)

instance : Source Document where
  error _ := unplaced
  text
    | .string (some s) => .ok s
    | d => mismatch d .text
  flag
    | .bool b => .ok b
    | d => mismatch d .flag
  natural
    | .number (some n) => Decode.natural n
    | d => mismatch d .natural
  integer
    | .number (some n) => Decode.integer n
    | d => mismatch d .integer
  optional
    | .null => .ok none
    | d => .ok (some d)
  items
    | .array items => .ok items
    | d => mismatch d .sequence
  parts name
    | .object entries => .ok (.keyed (entries.map fun (key, d) => (readable key, d)))
    | .array items => .ok (.listed items)
    | d => mismatch d (.record name)
  values
    | .object entries =>
      readable ((Document.entryValues? (Document.greatestDepth - 2) entries).map Dictionary.ofList)
    | d => mismatch d .map
  skip d := if d.isBroken then .error (unplaced .unreadable) else .ok ()
  excess _ := .unreadable

end Document

end BroadcastFilter.Decode
