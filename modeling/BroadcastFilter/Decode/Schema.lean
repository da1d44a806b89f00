import BroadcastFilter.Decode.Source

/-!
Records and how they are read. A record is written with its field names, in any order, or as a list
of its fields in their order. A field with a default may be left out; in a strict record every name
must be known, in a lenient one an unknown name is passed over with its value.
-/

namespace BroadcastFilter.Decode

/-- One field of a record `R` in documents with nodes `N`, and the component of the record that it
fills. -/
structure Field (N R : Type) where
  name : String
  required : Bool
  Component : Type
  readValue : N → Except Error Component
  get : R → Component
  put : Component → R → R
  get_put : ∀ a r, get (put a r) = a

/-- Reads the field's value and puts it into the record. -/
def Field.read {N R : Type} (f : Field N R) (n : N) (r : R) : Except Error R := do
  return f.put (← f.readValue n) r

structure Schema (N R : Type) where
  name : String
  fields : List (Field N R)
  strict : Bool
  /-- The record with the default in every field. -/
  blank : R

namespace Schema

variable {N R : Type} [Source N]

/-- Reads entries in their order; `seen` are the names read before. A name that is unknown or comes
again is an error before its value is looked at. -/
def readKeyed (s : Schema N R) (n : N) :
    List (Except Error String × N) → List String → R → Except Error R
  | [], seen, record =>
    match s.fields.find? fun f => f.required && !seen.contains f.name with
    | some f => .error (Source.error n (.missingField f.name))
    | none => .ok record
  | (key, value) :: rest, seen, record => do
    let name ← key
    match s.fields.find? (·.name == name) with
    | some f =>
      if seen.contains name then .error (Source.error n (.duplicateField name))
      else s.readKeyed n rest (name :: seen) (← f.read value record)
    | none =>
      if s.strict then .error (Source.error n (.unknownField name (s.fields.map (·.name))))
      else do
        Source.skip value
        s.readKeyed n rest seen record

/-- Reads fields in their order from as many items; `count` fields have been read. -/
def readListed (s : Schema N R) (n : N) :
    List (Field N R) → List N → Nat → R → Except Error R
  | [], [], _, record => .ok record
  | [], extra, count, _ => .error (Source.error n (Source.excess N (count + extra.length)))
  | f :: fields, [], count, record =>
    if f.required then .error (Source.error n (.tooShort count s.name s.fields.length))
    else s.readListed n fields [] count record
  | f :: fields, item :: items, count, record => do
    s.readListed n fields items (count + 1) (← f.read item record)

def read (s : Schema N R) (n : N) : Except Error R := do
  match ← Source.parts s.name n with
  | .keyed entries => s.readKeyed n entries [] s.blank
  | .listed items => s.readListed n s.fields items 0 s.blank

end Schema

end BroadcastFilter.Decode
