import BroadcastFilter.Yaml.Token

/-!
Nodes: what a YAML text says. If the text stops being readable, the tree ends at that place with a
`cut` leaf. An alias keeps the number of what it stands for.
-/

namespace BroadcastFilter.Yaml

inductive Node where
  | scalar (text : String) (style : Style) (tag : Option String)
  | sequence (tag : Option String) (items : List Node)
  | mapping (tag : Option String) (entries : List (Node × Node))
  | alias (number : Nat)
  /-- An empty document. -/
  | nothing
  | cut
deriving Inhabited

namespace Node

/-- A scalar that is not written. -/
def empty : Node := .scalar "" .plain none

mutual

/-- The tree is cut somewhere inside. -/
def hasCut : Node → Bool
  | .cut => true
  | .sequence _ items => anyHasCut items
  | .mapping _ entries => anyEntryHasCut entries
  | _ => false

def anyHasCut : List Node → Bool
  | [] => false
  | item :: rest => item.hasCut || anyHasCut rest

def anyEntryHasCut : List (Node × Node) → Bool
  | [] => false
  | (key, value) :: rest => key.hasCut || value.hasCut || anyEntryHasCut rest

end

mutual

/-- How many steps the tree is told in: one for a leaf, and one each for the start and the end of a
collection. -/
def steps : Node → Nat
  | .cut => 0
  | .sequence _ items => 2 + itemSteps items
  | .mapping _ entries => 2 + entrySteps entries
  | _ => 1

def itemSteps : List Node → Nat
  | [] => 0
  | item :: rest => item.steps + itemSteps rest

def entrySteps : List (Node × Node) → Nat
  | [] => 0
  | (key, value) :: rest => key.steps + value.steps + entrySteps rest

end

end Node

/-- The first document of a text. -/
structure Document where
  root : Node
  /-- What the aliases stand for, by number. -/
  anchored : List (Nat × Node)
  /-- Nothing follows the document. -/
  isLast : Bool
deriving Inhabited

/-- What an alias with a number stands for. -/
def Document.target (d : Document) (number : Nat) : Node := (d.anchored.lookup number).getD .cut

end BroadcastFilter.Yaml
