import BroadcastFilter.Decode.Error
import BroadcastFilter.Json.Value

/-!
What can be asked of a node of a document, whatever its format. A format answers each question in
its own way: which nodes count as text, what stands for an absent value, where an error is placed.
-/

namespace BroadcastFilter.Decode

/-- The parts of a record: keyed by field name, or listed in the order of the fields. A key may be
unreadable, or no text. -/
inductive Parts (N : Type) where
  | keyed (entries : List (Except Error String × N))
  | listed (items : List N)

class Source (N : Type) where
  /-- An error about a node as a whole. -/
  error : N → Cause → Error
  text : N → Except Error String
  flag : N → Except Error Bool
  natural : N → Except Error UInt64
  integer : N → Except Error Int64
  /-- The node itself, unless it stands for an absent value. -/
  optional : N → Except Error (Option N)
  items : N → Except Error (List N)
  /-- The parts of a record of the given name. -/
  parts : String → N → Except Error (Parts N)
  /-- A map from text to values of any kind. -/
  values : N → Except Error (Dictionary Json.Value)
  /-- Passes over a node that nobody asks about. -/
  skip : N → Except Error Unit
  /-- Why a listed record may not be longer than its fields. -/
  excess : Nat → Cause

variable {N : Type} [Source N]

/-- A value that may be absent. -/
def optionally {A : Type} (read : N → Except Error A) (n : N) : Except Error (Option A) := do
  match ← Source.optional n with
  | none => return none
  | some m => return some (← read m)

/-- The values of a sequence, from its first item on. -/
def listOf {A : Type} (read : N → Except Error A) (n : N) : Except Error (List A) := do
  (← Source.items n).mapM read

end BroadcastFilter.Decode
