import BroadcastFilter.Binary64
import BroadcastFilter.Dictionary

/-!
Values of JSON. A number is a whole number or a floating-point number, as it was written; the two
are told apart by everything that reads a value.
-/

namespace BroadcastFilter.Json

inductive Number where
  | integer (n : Int)
  | float (x : Binary64)
deriving DecidableEq, Inhabited

inductive Value where
  | null
  | bool (b : Bool)
  | number (n : Number)
  | string (s : String)
  | array (items : List Value)
  | object (entries : List (String × Value))
deriving Inhabited

/-- An object from entries in any order; the last of several with one key counts. -/
def Value.ofEntries (entries : List (String × Value)) : Value :=
  .object (Dictionary.ofList entries).entries

/-- The entry of an object under a key. -/
def Value.get? (v : Value) (key : String) : Option Value :=
  match v with
  | .object entries => entries.lookup key
  | _ => none

end BroadcastFilter.Json
