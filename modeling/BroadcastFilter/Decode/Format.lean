import BroadcastFilter.Decode.Json
import BroadcastFilter.Decode.Yaml

/-!
The formats in which documents are written, and reading a value from the text of one.
-/

namespace BroadcastFilter.Decode

inductive Format where
  | json
  | yaml
deriving DecidableEq, Inhabited

/-- A way to read a value that works for documents of every format. -/
abbrev Reader (A : Type) := {N : Type} → [Source N] → N → Except Error A

/-- A value from JSON text. What the text says wrongly comes before what follows the value. -/
def readJson {A : Type} (read : Reader A) (text : String) : Except Error A := do
  let (tree, complete) := Json.Document.ofText text
  let a ← read tree
  if complete then return a else .error (unplaced .unreadable)

/-- A value from YAML text, which may hold one document. -/
def readYaml {A : Type} (read : Reader A) (text : String) : Except Error A := do
  let document := Yaml.Document.ofText text
  let a ← read (Spot.root document)
  if document.isLast then return a else .error (unplaced .unreadable)

def Format.read {A : Type} (f : Format) (read : Reader A) (text : String) : Except Error A :=
  match f with
  | .json => readJson read text
  | .yaml => readYaml read text

end BroadcastFilter.Decode
