import BroadcastFilter.Yaml.Node
import BroadcastFilter.Yaml.Token.Stream

/-!
Nodes from tokens. Where the tokens end without the end of the stream, or where one stands that
cannot stand there, the tree is cut.

An anchor gets the number of different names that came before it. A name that comes again takes a
number that a later name may take too; the alias then stands for the node that began last.
-/

namespace BroadcastFilter.Yaml

/-- What is left of the tokens, and what has been named. -/
structure Reading where
  tokens : List Token
  /-- The tags that handles stand for. -/
  handles : List (String × String)
  /-- The number of each name, the latest first. -/
  names : List (String × Nat)
  /-- Nodes that have an anchor, by number and by order of their beginnings. -/
  anchored : List (Nat × Nat × Node)
  begun : Nat
deriving Inhabited

namespace Reading

abbrev Step (A : Type) := Reading → A × Reading

def peek (r : Reading) : Option Token := r.tokens.head?

def skip (r : Reading) : Reading := { r with tokens := r.tokens.drop 1 }

/-- Nothing further can be read. -/
def stop (r : Reading) : Reading := { r with tokens := [] }

/-- The number of a new anchor. -/
def nextNumber (r : Reading) : Nat := (r.names.map (·.1)).eraseDups.length

/-- Names what begins here; also the order of its beginning. -/
def name (r : Reading) (anchor : String) : (Nat × Nat) × Reading :=
  let number := r.nextNumber
  ((number, r.begun), { r with names := (anchor, number) :: r.names, begun := r.begun + 1 })

/-- Properties before a node: at most one anchor and one tag, in either order. -/
def properties (r : Reading) : (Option String × Option (String × String)) × Reading :=
  match r.tokens with
  | .anchor a :: .tag h s :: rest => ((some a, some (h, s)), { r with tokens := rest })
  | .tag h s :: .anchor a :: rest => ((some a, some (h, s)), { r with tokens := rest })
  | .anchor a :: rest => ((some a, none), { r with tokens := rest })
  | .tag h s :: rest => ((none, some (h, s)), { r with tokens := rest })
  | _ => ((none, none), r)

/-- The tag that a handle and a suffix make, unless the handle is unknown. -/
def tagOf? (r : Reading) (parts : String × String) : Option String :=
  if parts.1 = "" then some parts.2 else (r.handles.lookup parts.1).map (· ++ parts.2)

/-- The next token is one of those that leave a place empty. -/
def leavesEmpty (these : List Token) (r : Reading) : Bool := r.peek.any these.contains

/-- Tokens that leave the place of a key, of a value or of an item in a block empty. -/
def afterKey : List Token := [.key, .value, .blockEnd]

def afterEntry : List Token := [.blockEntry, .blockEnd]

def afterBareEntry : List Token := [.blockEntry, .key, .value, .blockEnd]

mutual

/-- A node. In a block, collections may be written by their lines; as a value in a block's mapping,
items may stand in the mapping's own column. -/
def node (block bare : Bool) : Nat → Step Node
  | 0, r => (.cut, r.stop)
  | fuel + 1, r =>
    match r.peek with
    | none => (.cut, r)
    | some (.alias a) =>
      match r.names.lookup a with
      | some number => (.alias number, r.skip)
      | none => (.cut, r.stop)
    | some _ =>
      let ((anchor, parts), r) := r.properties
      let tag := parts.map r.tagOf?
      if tag == some none then (.cut, r.stop)
      else
        let tag := tag.join
        match content block bare tag anchor fuel r with
        | (none, r) => (.cut, r.stop)
        | (some found, r) => (found, r)

/-- The content of a node whose properties have been read. -/
def content (block bare : Bool) (tag anchor : Option String) : Nat → Step (Option Node)
  | 0, r => (none, r)
  | fuel + 1, r =>
    let opened (r : Reading) : Option (Nat × Nat) × Reading :=
      match anchor with
      | none => (none, r)
      | some a => let (n, r) := r.name a; (some n, r)
    let finish (n : Option (Nat × Nat)) (found : Node) (r : Reading) : Option Node × Reading :=
      match n with
      | none => (some found, r)
      | some (number, order) =>
        (some found, { r with anchored := (number, order, found) :: r.anchored })
    match r.peek with
    | some (.scalar text style) =>
      let (n, r) := opened r
      finish n (.scalar text style (if tag = some "!" then none else tag)) r.skip
    | some .flowSequenceStart =>
      let (n, r) := opened r
      let (items, r) := flowItems true fuel r.skip
      finish n (.sequence tag items) r
    | some .flowMappingStart =>
      let (n, r) := opened r
      let (entries, r) := flowEntries true fuel r.skip
      finish n (.mapping tag entries) r
    | some token =>
      if bare && token == .blockEntry then
        let (n, r) := opened r
        let (items, r) := bareItems fuel r
        finish n (.sequence tag items) r
      else if block && token == .blockSequenceStart then
        let (n, r) := opened r
        let (items, r) := blockItems fuel r.skip
        finish n (.sequence tag items) r
      else if block && token == .blockMappingStart then
        let (n, r) := opened r
        let (entries, r) := blockEntries fuel r.skip
        finish n (.mapping tag entries) r
      else if tag.isSome || anchor.isSome then
        let (n, r) := opened r
        finish n (.scalar "" .plain tag) r
      else (none, r)
    | none => (none, r)

/-- The items of a block's sequence. -/
def blockItems : Nat → Step (List Node)
  | 0, r => ([.cut], r.stop)
  | fuel + 1, r =>
    match r.peek with
    | some .blockEntry =>
      let (item, r) := place afterEntry true false fuel r.skip
      let (items, r) := blockItems fuel r
      (item :: items, r)
    | some .blockEnd => ([], r.skip)
    | _ => ([.cut], r.stop)

/-- Items in the column of the mapping that they are a value in. -/
def bareItems : Nat → Step (List Node)
  | 0, r => ([.cut], r.stop)
  | fuel + 1, r =>
    match r.peek with
    | some .blockEntry =>
      let (item, r) := place afterBareEntry true false fuel r.skip
      let (items, r) := bareItems fuel r
      (item :: items, r)
    | some _ => ([], r)
    | none => ([.cut], r)

/-- The entries of a block's mapping. -/
def blockEntries : Nat → Step (List (Node × Node))
  | 0, r => ([(.cut, .cut)], r.stop)
  | fuel + 1, r =>
    match r.peek with
    | some .key =>
      let (key, r) := place afterKey true true fuel r.skip
      let (value, r) := blockValue fuel r
      let (entries, r) := blockEntries fuel r
      ((key, value) :: entries, r)
    | some .blockEnd => ([], r.skip)
    | _ => ([(.cut, .cut)], r.stop)

/-- The value after a key in a block. -/
def blockValue : Nat → Step Node
  | 0, r => (.cut, r.stop)
  | fuel + 1, r =>
    match r.peek with
    | some .value => place afterKey true true fuel r.skip
    | some _ => (.empty, r)
    | none => (.cut, r)

/-- A node, or an empty one if a token comes that leaves its place empty. -/
def place (leaving : List Token) (block bare : Bool) : Nat → Step Node
  | 0, r => (.cut, r.stop)
  | fuel + 1, r =>
    if r.leavesEmpty leaving then (.empty, r) else node block bare fuel r

/-- The items of a sequence between brackets. -/
def flowItems (first : Bool) : Nat → Step (List Node)
  | 0, r => ([.cut], r.stop)
  | fuel + 1, r =>
    match r.peek with
    | some .flowSequenceEnd => ([], r.skip)
    | token =>
      if !first && token != some .flowEntry then ([.cut], r.stop)
      else
        let r := if first then r else r.skip
        match r.peek with
        | some .flowSequenceEnd => ([], r.skip)
        | some .key =>
          let (item, r) := pairItem fuel r.skip
          let (items, r) := flowItems false fuel r
          (item :: items, r)
        | some _ =>
          let (item, r) := node false false fuel r
          let (items, r) := flowItems false fuel r
          (item :: items, r)
        | none => ([.cut], r)

/-- A mapping of one entry that is written as an item. A key that is left out takes with it the
token that shows this. -/
def pairItem : Nat → Step Node
  | 0, r => (.cut, r.stop)
  | fuel + 1, r =>
    let (key, r) :=
      if r.leavesEmpty [.value, .flowEntry, .flowSequenceEnd] then (.empty, r.skip)
      else node false false fuel r
    let (value, r) := pairValue fuel r
    (.mapping none (if r.tokens.isEmpty then [(key, value), (.cut, .cut)] else [(key, value)]), r)

def pairValue : Nat → Step Node
  | 0, r => (.cut, r.stop)
  | fuel + 1, r =>
    match r.peek with
    | some .value => place [.flowEntry, .flowSequenceEnd] false false fuel r.skip
    | some _ => (.empty, r)
    | none => (.cut, r)

/-- The entries of a mapping between braces. -/
def flowEntries (first : Bool) : Nat → Step (List (Node × Node))
  | 0, r => ([(.cut, .cut)], r.stop)
  | fuel + 1, r =>
    match r.peek with
    | some .flowMappingEnd => ([], r.skip)
    | token =>
      if !first && token != some .flowEntry then ([(.cut, .cut)], r.stop)
      else
        let r := if first then r else r.skip
        match r.peek with
        | some .flowMappingEnd => ([], r.skip)
        | some .key =>
          let (key, r) := place [.value, .flowEntry, .flowMappingEnd] false false fuel r.skip
          let (value, r) := flowValue fuel r
          let (entries, r) := flowEntries false fuel r
          ((key, value) :: entries, r)
        | some _ =>
          let (key, r) := node false false fuel r
          let value := if r.tokens.isEmpty then .cut else .empty
          let (entries, r) := flowEntries false fuel r
          ((key, value) :: entries, r)
        | none => ([(.cut, .cut)], r)

/-- The value after a key between braces. -/
def flowValue : Nat → Step Node
  | 0, r => (.cut, r.stop)
  | fuel + 1, r =>
    match r.peek with
    | some .value => place [.flowEntry, .flowMappingEnd] false false fuel r.skip
    | some _ => (.empty, r)
    | none => (.cut, r)

end

/-- The tags that handles stand for if no directive says otherwise. -/
def defaultHandles : List (String × String) := [("!", "!"), ("!!", "tag:yaml.org,2002:")]

/-- Directives before a document. There may be one version, which must be 1.1 or 1.2, and one
replacement for each handle. -/
def directives (version : Bool) :
    List Token → List (String × String) → Option (List (String × String) × List Token)
  | .versionDirective major minor :: rest, handles =>
    if version || major ≠ 1 || (minor ≠ 1 && minor ≠ 2) then none else directives true rest handles
  | .tagDirective handle replacement :: rest, handles =>
    if (handles.lookup handle).isSome then none
    else directives version rest ((handle, replacement) :: handles)
  | rest, handles => some (handles, rest)

def isDirective : Token → Bool
  | .versionDirective .. | .tagDirective .. => true
  | _ => false

/-- The root of a document that begins with a mark may be left out before one of these. -/
def endsContent : Token → Bool
  | .documentStart | .documentEnd | .streamEnd => true
  | t => isDirective t

def fuelFor (tokens : List Token) : Nat := 5 * tokens.length + 10

def start (tokens : List Token) (handles : List (String × String)) : Reading :=
  ⟨tokens, handles ++ defaultHandles, [], [], 0⟩

/-- The root of the first document, unless there is none. -/
def root (tokens : List Token) : Node × Reading :=
  match tokens with
  | [] => (.cut, start [] [])
  | .streamEnd :: _ => (.nothing, start tokens [])
  | first :: _ =>
    if isDirective first || first == .documentStart then
      match directives false tokens [] with
      | some (handles, .documentStart :: rest) =>
        let r := start rest handles
        if r.peek.any endsContent then (.empty, r) else node true false (fuelFor rest) r
      | _ => (.cut, start [] [])
    else node true false (fuelFor tokens) (start tokens [])

/-- After a document come marks of its end and then the end of the stream. -/
def isAtEnd (r : Reading) : Bool := r.tokens.dropWhile (· == .documentEnd) == [.streamEnd]

end Reading

/-- The first document of a text. -/
def Document.ofText (text : String) : Document :=
  let (root, r) := Reading.root (Token.ofText text)
  let byBeginning := r.anchored.mergeSort fun a b => b.2.1 ≤ a.2.1
  ⟨root, byBeginning.map fun (number, _, node) => (number, node), r.isAtEnd⟩

end BroadcastFilter.Yaml
