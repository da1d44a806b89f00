import BroadcastFilter.Text.Quoted

/-!
Why a document does not fit the type that is read from it. A cause names what was found and what was
wanted; a document that cannot be read at all, or not as far as it had to be, has no further cause.
-/

namespace BroadcastFilter.Decode

/-- What stands in a document in place of what was wanted. -/
inductive Found where
  | text (s : String)
  /-- A whole number; `wide` if 64 bits do not hold it. -/
  | integer (n : Int) (wide : Bool)
  | real (shown : String)
  | flag (b : Bool)
  | null
  | nothing
  | sequence
  | map
  | choice
deriving DecidableEq, Inhabited

/-- What is wanted from a document. -/
inductive Wanted where
  | text
  | flag
  | natural
  | integer
  | sequence
  | map
  | record (name : String)
  | fieldName
  | textKey
  | value
  | null
  | anyInteger
  | real
deriving DecidableEq, Inhabited

inductive Cause where
  /-- The document breaks off, or holds what has no value. -/
  | unreadable
  | wrongType (found : Found) (wanted : Wanted)
  | wrongValue (found : Found) (wanted : Wanted)
  /-- A record written as a sequence ends before a field that it needs. -/
  | tooShort (length : Nat) (record : String) (fields : Nat)
  /-- A record written as a sequence goes on after its last field. -/
  | tooLong (length : Nat)
  | unknownField (name : String) (known : List String)
  | missingField (name : String)
  | duplicateField (name : String)
deriving DecidableEq, Inhabited

/-- A cause, and the place in the document if the format keeps places. -/
structure Error where
  cause : Cause
  place : Option String
deriving DecidableEq, Inhabited

/-- A name between backquotes. -/
def named (s : String) : String := "\x60" ++ s ++ "\x60"

def Found.toText : Found → String
  | .text s => "string " ++ Text.quoted s
  | .integer n wide =>
    "integer " ++ named (toString n) ++
      (if wide then if n < 0 then " as i128" else " as u128" else "")
  | .real shown => "floating point " ++ named shown
  | .flag b => "boolean " ++ named (if b then "true" else "false")
  | .null => "null"
  | .nothing => "unit value"
  | .sequence => "sequence"
  | .map => "map"
  | .choice => "enum"

def Wanted.toText : Wanted → String
  | .text => "a string"
  | .flag => "a boolean"
  | .natural => "u64"
  | .integer => "i64"
  | .sequence => "a sequence"
  | .map => "a map"
  | .record name => "struct " ++ name
  | .fieldName => "field identifier"
  | .textKey => "a string key"
  | .value => "any valid JSON value"
  | .null => "null"
  | .anyInteger => "an integer"
  | .real => "a float"

/-- The known names, as a choice. -/
def oneOf : List String → String
  | [] => "there are no fields"
  | [a] => "expected " ++ named a
  | [a, b] => "expected " ++ named a ++ " or " ++ named b
  | names => "expected one of " ++ ", ".intercalate (names.map named)

def Cause.toText : Cause → String
  | .unreadable => "malformed document"
  | .wrongType found wanted =>
    "invalid type: " ++ found.toText ++ ", expected " ++ wanted.toText
  | .wrongValue found wanted =>
    "invalid value: " ++ found.toText ++ ", expected " ++ wanted.toText
  | .tooShort length record fields =>
    "invalid length " ++ toString length ++ ", expected struct " ++ record ++ " with " ++
      toString fields ++ " elements"
  | .tooLong length => "invalid length " ++ toString length ++ ", expected fewer elements in array"
  | .unknownField name known => "unknown field " ++ named name ++ ", " ++ oneOf known
  | .missingField name => "missing field " ++ named name
  | .duplicateField name => "duplicate field " ++ named name

/-- The cause after its place. -/
def Error.toText (e : Error) : String :=
  match e.place with
  | some place => place ++ ": " ++ e.cause.toText
  | none => e.cause.toText

end BroadcastFilter.Decode
