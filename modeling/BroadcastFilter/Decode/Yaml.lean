import BroadcastFilter.Decode.Source
import BroadcastFilter.Yaml.Node.OfTokens
import BroadcastFilter.Yaml.Scalar

/-!
Reading from YAML. Every scalar can be read as text, as it is written. Errors are placed by the keys
and item numbers that lead to the node they are about.
-/

namespace BroadcastFilter.Decode

open Yaml

/-- The way from the root to a node, written out; nothing at the root. -/
abbrev Place := Option String

namespace Place

def toText (p : Place) : String := p.getD "."

def item (p : Place) (index : Nat) : Place := some (p.toText ++ "[" ++ toString index ++ "]")

/-- What a value's place begins with. -/
def lead : Place → String
  | none => ""
  | some text => text ++ "."

/-- The value under a key, if the key is written as a scalar. -/
def entry (p : Place) (key : Node) : Place :=
  match key with
  | .scalar text _ _ => some (p.lead ++ text)
  | _ => some (p.lead ++ "?")

/-- The root has no place to be named. -/
def error (p : Place) (cause : Cause) : Error :=
  ⟨cause, if p.toText = "." then none else some p.toText⟩

end Place

/-- A node in its document. -/
structure Spot where
  document : Yaml.Document
  node : Node
  place : Place
  /-- The place of the collection around. -/
  outer : Place

namespace Spot

def root (d : Yaml.Document) : Spot := ⟨d, d.root, none, none⟩

/-- What a node stands for. -/
def deref (d : Yaml.Document) : Node → Node
  | .alias number => d.target number
  | node => node

def target (s : Spot) : Node := deref s.document s.node

def fail {A : Type} (p : Place) (cause : Cause) : Except Error A := .error (p.error cause)

/-- A whole number that 64 bits do not hold, with a sign if it is negative. -/
def isWide (n : Int) : Bool := n < Int64.minValue.toInt || UInt64.size ≤ n

def foundResolved (s : String) : Resolved → Found
  | .null => .nothing
  | .flag b => .flag b
  | .integer n => .integer n (isWide n)
  | .real r => .real r.toText
  | .text => .text s

def wantedBy : Scalar.CoreTag → Wanted
  | .null => .null
  | .flag => .flag
  | .integer => .anyInteger
  | .real => .real

/-- Why a node is not what is wanted. A scalar that does not fit its own tag is at fault for that.
-/
def mismatch (node : Node) (wanted : Wanted) : Cause :=
  match node with
  | .scalar s style tag =>
    match Scalar.meaning s style tag with
    | .ok r => .wrongType (foundResolved s r) wanted
    | .error core => .wrongValue (.text s) (wantedBy core)
  | .sequence .. => .wrongType .sequence wanted
  | .mapping .. => .wrongType .map wanted
  | _ => .unreadable

/-- A scalar that is not written, or no document at all. -/
def isEmpty : Node → Bool
  | .nothing => true
  | .scalar s style _ => s == "" && style == .plain
  | _ => false

/-- The text of a key in a map at a place. -/
def keyText (d : Yaml.Document) (p : Place) (wanted : Wanted) (key : Node) : Except Error String :=
  match deref d key with
  | .scalar s _ _ => .ok s
  | node => fail p (mismatch node wanted)

/-- A scalar read as a value of a kind. -/
def scalar {A : Type} (s : Spot) (core : Scalar.CoreTag) (wanted : Wanted)
    (read : String → Option A) : Except Error A :=
  let no : Except Error A := fail s.place (mismatch s.target wanted)
  match s.target with
  | .scalar text style tag =>
    if Scalar.mayBe core style tag then
      match read text with
      | some a => .ok a
      | none => no
    else no
  | _ => no

/-- Reading values of any kind; the state counts the aliases that were followed. -/
abbrev Counting := StateT Nat (Except Error)

/-- How deep collections may nest. -/
def greatestDepth : Nat := 128

/-- How many aliases may be followed, for each step in which the document is told. -/
def aliasesPerStep : Nat := 100

def follow (d : Yaml.Document) (p : Place) : Node → Counting Node
  | .alias number => do
    let followed ← get
    if aliasesPerStep * d.root.steps < followed + 1 then throw (p.error .unreadable)
    set (followed + 1)
    return d.target number
  | node => return node

def realValue : Floating → Json.Value
  | .finite x => .number (.float x)
  | _ => .null

/-- The value of a scalar. Whole numbers that 64 bits do not hold have none. -/
def scalarValue (p : Place) (s : String) (style : Style) (tag : Option String) :
    Except Error Json.Value :=
  match Scalar.meaning s style tag with
  | .error core => fail p (.wrongValue (.text s) (wantedBy core))
  | .ok .null => .ok .null
  | .ok (.flag b) => .ok (.bool b)
  | .ok (.integer n) =>
    if isWide n then fail p .unreadable else .ok (.number (.integer n))
  | .ok (.real r) => .ok (realValue r)
  | .ok .text => .ok (.string s)

/-- A key that may be an alias. -/
def countedKey (d : Yaml.Document) (p : Place) (wanted : Wanted) (key : Node) :
    Counting String := do
  keyText d p wanted (← follow d p key)

/-- The value of a node below which collections may nest `depth` deep. A tag of the document's own
would name a choice, which is no value. -/
def value (d : Yaml.Document) : Nat → Place → Node → Counting Json.Value
  | depth, p, node => do
    let node ← follow d p node
    let tag := match node with
      | .scalar _ _ tag | .sequence tag _ | .mapping tag _ => tag
      | _ => none
    if tag.any Scalar.isOwnTag then throw (p.error (.wrongType .choice .value))
    match node, depth with
    | .scalar s style tag, _ => scalarValue p s style tag
    | .nothing, _ => return .null
    | .sequence _ items, depth + 1 => do
      let vs ← items.zipIdx.mapM fun (item, index) => value d depth (p.item index) item
      return .array vs
    | .mapping _ entries, depth + 1 => do
      let vs ← entries.zipIdx.mapM fun ((key, v), index) => do
        let k ← countedKey d p (if index = 0 then .textKey else .text) key
        return (k, ← value d depth (p.entry key) v)
      return .ofEntries vs
    | _, _ => throw (p.error .unreadable)

/-- The values in a map within the root. -/
def values (s : Spot) : Except Error (Dictionary Json.Value) :=
  match s.target with
  | .mapping _ entries => do
    let read := entries.mapM fun (key, v) => do
      let k ← countedKey s.document s.place .text key
      return (k, ← value s.document (greatestDepth - 2) (s.place.entry key) v)
    return .ofList (← read.run' 0)
  | node => if isEmpty node then .ok ∅ else fail s.place (mismatch node .map)

instance : Source Spot where
  error s := s.place.error
  text s :=
    match s.target with
    | .scalar text _ _ => .ok text
    | node => fail s.place (mismatch node .text)
  flag s := s.scalar .flag .flag Scalar.flag?
  natural s :=
    s.scalar .integer .natural fun text =>
      (Scalar.natural? text).bind fun n => if n < UInt64.size then some (UInt64.ofNat n) else none
  integer s :=
    s.scalar .integer .integer fun text =>
      (Scalar.integer? text).bind fun n =>
        if Int64.minValue.toInt ≤ n ∧ n ≤ Int64.maxValue.toInt then some (Int64.ofInt n) else none
  optional s :=
    match s.target with
    | .scalar text .plain none => .ok (if text = "" ∨ Scalar.isNull text then none else some s)
    | .scalar text .plain (some tag) =>
      if Scalar.CoreTag.of? tag = some .null then
        if Scalar.isNull text then .ok none else fail s.outer (.wrongValue (.text text) .null)
      else .ok (some s)
    | .nothing => .ok none
    | _ => .ok (some s)
  items s :=
    match s.target with
    | .sequence _ items =>
      .ok (items.zipIdx.map fun (item, index) => ⟨s.document, item, s.place.item index, s.place⟩)
    | node => if isEmpty node then .ok [] else fail s.place (mismatch node .sequence)
  parts name s :=
    match s.target with
    | .mapping _ entries =>
      .ok (.keyed (entries.map fun (key, v) =>
        (keyText s.document s.place .fieldName key, ⟨s.document, v, s.place.entry key, s.place⟩)))
    | node => if isEmpty node then .ok (.keyed []) else fail s.place (mismatch node (.record name))
  values := values
  skip s := if s.node.hasCut then fail s.place .unreadable else .ok ()
  excess _ := .unreadable

end Spot

end BroadcastFilter.Decode
