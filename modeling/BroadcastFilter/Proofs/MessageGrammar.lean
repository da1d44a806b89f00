import BroadcastFilter.Message.Schema
import BroadcastFilter.Proofs.Grammar

/-!
The grammar of message documents, in the same way as that of configurations. Here every field may
be left out, and a name that is no field's may stand in a document with any value; no field may be
null.
-/

namespace BroadcastFilter

open Json Decode

namespace Json

def IsObject (v : Value) : Prop := ∃ entries, v = .object entries

/-- The value is an object with the entries of the dictionary; the last of several with one key
counts. -/
def Entries (v : Value) (d : Dictionary Value) : Prop :=
  ∃ entries, v = .object entries ∧ Dictionary.ofList entries = d

theorem values_eq_ok_iff {v : Value} {d : Dictionary Value} :
    Source.values v = .ok d ↔ Entries v d := by
  cases v <;> simp [Source.values, Value.mismatch, Entries]

theorem values_succeeds_iff {v : Value} : (∃ d, Source.values v = .ok d) ↔ IsObject v := by
  simp only [values_eq_ok_iff, Entries, IsObject]
  exact ⟨fun ⟨_, entries, h, _⟩ => ⟨entries, h⟩, fun ⟨entries, h⟩ => ⟨_, entries, h, rfl⟩⟩

theorem natural_succeeds_iff {v : Value} : (∃ n, Source.natural v = .ok n) ↔ IsNatural v := by
  simp only [natural_eq_ok_iff, exists_natural_iff]

theorem integer_succeeds_iff {v : Value} : (∃ n, Source.integer v = .ok n) ↔ IsInteger v := by
  simp only [integer_eq_ok_iff, exists_integer_iff]

end Json

namespace User

/-- The fields of a user in documents. -/
def clauses : List Clause :=
  [⟨"id", false, IsNatural⟩, ⟨"name", false, IsText⟩, ⟨"admin", false, IsFlag⟩]

def IsDocument (v : Value) : Prop := IsRecord clauses false v

/-- The value is the document of a user and tells this one. -/
@[mk_iff]
structure Describes (v : Value) (u : User) : Prop where
  document : IsDocument v
  id : Given Natural (some 0) (Clause.part? clauses "id" v) u.id
  name : Given Text (some "") (Clause.part? clauses "name" v) u.name
  admin : Given Flag (some false) (Clause.part? clauses "admin" v) u.admin

theorem regular_schema : (schema (N := Value)).Regular where
  names_nodup := by decide
  apart := by simp [schema, Field.defaulted]
  ext := by
    rintro ⟨⟩ ⟨⟩ h
    simpa [schema, Field.defaulted] using h

theorem clauses_schema : (schema (N := Value)).clauses = clauses := by
  simp only [Schema.clauses, schema, clauses, List.map_cons, List.map_nil, Field.clause_defaulted,
    natural_succeeds_iff, text_succeeds_iff, flag_succeeds_iff]

theorem read_succeeds_iff {v : Value} : (∃ u, User.read v = .ok u) ↔ IsDocument v :=
  Schema.read_succeeds_iff regular_schema clauses_schema

theorem read_eq_ok_iff {v : Value} {u : User} : User.read v = .ok u ↔ Describes v u := by
  rw [User.read, Schema.read_eq_ok_iff regular_schema clauses_schema, describes_iff, IsDocument]
  simp [schema, Field.gives_defaulted, natural_eq_ok_iff, text_eq_ok_iff, flag_eq_ok_iff]

end User

namespace Message

/-- The fields of a message in documents. -/
def clauses : List Clause :=
  [⟨"sender", false, User.IsDocument⟩,
    ⟨"receiver", false, User.IsDocument⟩,
    ⟨"title", false, IsText⟩,
    ⟨"text", false, IsText⟩,
    ⟨"extras", false, IsObject⟩,
    ⟨"priority", false, IsInteger⟩,
    ⟨"channel_name", false, IsText⟩,
    ⟨"outbound", false, IsFlag⟩]

def IsDocument (v : Value) : Prop := IsRecord clauses false v

/-- The value is the document of a message and tells this one. -/
@[mk_iff]
structure Describes (v : Value) (m : Message) : Prop where
  document : IsDocument v
  sender : Given User.Describes (some {}) (Clause.part? clauses "sender" v) m.sender
  receiver : Given User.Describes (some {}) (Clause.part? clauses "receiver" v) m.receiver
  title : Given Text (some "") (Clause.part? clauses "title" v) m.title
  text : Given Text (some "") (Clause.part? clauses "text" v) m.text
  extras : Given Entries (some ∅) (Clause.part? clauses "extras" v) m.extras
  priority : Given Integer (some 0) (Clause.part? clauses "priority" v) m.priority
  channelName : Given Text (some "") (Clause.part? clauses "channel_name" v) m.channelName
  outbound : Given Flag (some false) (Clause.part? clauses "outbound" v) m.outbound

theorem regular_schema : (schema (N := Value)).Regular where
  names_nodup := by decide
  apart := by simp [schema, Field.defaulted]
  ext := by
    rintro ⟨⟩ ⟨⟩ h
    simpa [schema, Field.defaulted] using h

theorem clauses_schema : (schema (N := Value)).clauses = clauses := by
  simp only [Schema.clauses, schema, clauses, List.map_cons, List.map_nil, Field.clause_defaulted,
    User.read_succeeds_iff, text_succeeds_iff, values_succeeds_iff, integer_succeeds_iff,
    flag_succeeds_iff]

theorem read_succeeds_iff {v : Value} : (∃ m, Message.read v = .ok m) ↔ IsDocument v :=
  Schema.read_succeeds_iff regular_schema clauses_schema

theorem read_eq_ok_iff {v : Value} {m : Message} : Message.read v = .ok m ↔ Describes v m := by
  rw [Message.read, Schema.read_eq_ok_iff regular_schema clauses_schema, describes_iff, IsDocument]
  simp [schema, Field.gives_defaulted, User.read_eq_ok_iff, text_eq_ok_iff, values_eq_ok_iff,
    integer_eq_ok_iff, flag_eq_ok_iff]

end Message

end BroadcastFilter
