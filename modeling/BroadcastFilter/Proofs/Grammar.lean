import BroadcastFilter.Proofs.Record
import Mathlib.Algebra.Group.Int.Defs
import Mathlib.Tactic.MkIffOfInductiveProp

/-!
The grammar of configuration documents. For every kind of record there is the list of its fields,
with what each may hold, and beside it what a document of that grammar says: every component is told
by its part of the document or has its default. Reading a configuration succeeds on exactly the
documents of the grammar, at every level, and the result is what the document says.
-/

namespace BroadcastFilter

open Json Decode

namespace Json

def IsText (v : Value) : Prop := ∃ s, v = .string s

def IsFlag (v : Value) : Prop := ∃ b, v = .bool b

/-- A whole number that 64 bits hold without a sign. -/
def IsNatural (v : Value) : Prop := ∃ n : Int, v = .number (.integer n) ∧ 0 ≤ n ∧ n ≤ 2 ^ 64 - 1

/-- A whole number that 64 bits hold with a sign. -/
def IsInteger (v : Value) : Prop :=
  ∃ n : Int, v = .number (.integer n) ∧ -2 ^ 63 ≤ n ∧ n ≤ 2 ^ 63 - 1

def IsNullOr (fits : Value → Prop) (v : Value) : Prop := v = .null ∨ fits v

def IsListOf (fits : Value → Prop) (v : Value) : Prop :=
  ∃ items, v = .array items ∧ ∀ item ∈ items, fits item

def Text (v : Value) (s : String) : Prop := v = .string s

def Flag (v : Value) (b : Bool) : Prop := v = .bool b

def Natural (v : Value) (n : UInt64) : Prop := v = .number (.integer n.toNat)

def Integer (v : Value) (n : Int64) : Prop := v = .number (.integer n.toInt)

/-- A value that may be null, which tells that nothing is held. -/
def NullOr {A : Type} (tells : Value → A → Prop) (v : Value) : Option A → Prop
  | none => v = .null
  | some a => tells v a

def ListOf {A : Type} (tells : Value → A → Prop) (v : Value) (as : List A) : Prop :=
  ∃ items, v = .array items ∧ List.Forall₂ tells items as

section Reading

variable {A : Type} {v : Value}

theorem text_eq_ok_iff {s : String} : Source.text v = .ok s ↔ Text v s := by
  cases v <;> simp [Source.text, Value.mismatch, Text]

theorem flag_eq_ok_iff {b : Bool} : Source.flag v = .ok b ↔ Flag v b := by
  cases v <;> simp [Source.flag, Value.mismatch, Flag]

theorem natural_eq_ok_iff {n : UInt64} : Source.natural v = .ok n ↔ Natural v n := by
  cases v with
  | number k =>
      cases k with
      | integer k =>
          have hn := n.toNat_lt
          have hsize : (UInt64.size : Int) = 2 ^ 64 := rfl
          simp only [Source.natural, Decode.natural, Natural, Value.number.injEq,
            Number.integer.injEq]
          split
          next hfits =>
            rw [Except.ok.injEq, ← UInt64.toNat_inj, UInt64.toNat_ofNat_of_lt' (by omega)]
            omega
          next hwide =>
            refine iff_of_false (by simp) ?_
            omega
      | float x => simp [Source.natural, Decode.natural, Natural]
  | _ => simp [Source.natural, Value.mismatch, Natural]

theorem integer_eq_ok_iff {n : Int64} : Source.integer v = .ok n ↔ Integer v n := by
  cases v with
  | number k =>
      cases k with
      | integer k =>
          have hleast : Int64.minValue.toInt = -2 ^ 63 := by decide
          have hgreatest : Int64.maxValue.toInt = 2 ^ 63 - 1 := by decide
          simp only [Source.integer, Decode.integer, Integer, Value.number.injEq,
            Number.integer.injEq]
          split
          next hfits =>
            rw [Except.ok.injEq, ← Int64.toInt_inj,
              Int64.toInt_ofInt_of_le (by omega) (by omega)]
          next hwide =>
            refine iff_of_false (by simp) ?_
            rintro rfl
            exact hwide ⟨n.minValue_le_toInt, n.toInt_le⟩
      | float x => simp [Source.integer, Decode.integer, Integer]
  | _ => simp [Source.integer, Value.mismatch, Integer]

theorem exists_natural_iff : (∃ n, Natural v n) ↔ IsNatural v := by
  constructor
  · rintro ⟨n, hn⟩
    have := n.toNat_lt
    exact ⟨n.toNat, hn, by omega, by omega⟩
  · rintro ⟨n, rfl, hleast, hgreatest⟩
    refine ⟨UInt64.ofNat n.toNat, ?_⟩
    rw [Natural, UInt64.toNat_ofNat_of_lt' (by simp only [UInt64.size]; omega),
      Int.toNat_of_nonneg hleast]

theorem exists_integer_iff : (∃ n, Integer v n) ↔ IsInteger v := by
  constructor
  · rintro ⟨n, hn⟩
    have hleast := n.le_toInt
    have hgreatest := n.toInt_lt
    exact ⟨n.toInt, hn, hleast, by omega⟩
  · rintro ⟨n, rfl, hleast, hgreatest⟩
    exact ⟨Int64.ofInt n, by rw [Integer, Int64.toInt_ofInt_of_le hleast (by omega)]⟩

theorem optionally_eq_ok_iff {read : Value → Except Error A} {tells : Value → A → Prop}
    (hread : ∀ {w a}, read w = .ok a ↔ tells w a) (hnull : ∀ a, ¬ tells .null a) {o : Option A} :
    optionally read v = .ok o ↔ NullOr tells v o := by
  have hstep (w : Value) (hw : Source.optional w = .ok (some w)) :
      optionally read w = .ok o ↔ ∃ a, tells w a ∧ some a = o := by
    simp [optionally, hw, eq_ok_of_bind, pure, Except.pure, hread]
  cases v with
  | null =>
      have hnone : optionally read Value.null = .ok none := rfl
      cases o with
      | none => simp [NullOr, hnone]
      | some a => simp [NullOr, hnone, hnull]
  | _ =>
      rw [hstep _ rfl]
      cases o <;> simp [NullOr]

theorem exists_nullOr_iff {tells : Value → A → Prop} :
    (∃ o, NullOr tells v o) ↔ IsNullOr (fun w => ∃ a, tells w a) v := by
  constructor
  · rintro ⟨_ | a, h⟩
    · exact .inl h
    · exact .inr ⟨a, h⟩
  · rintro (h | ⟨a, h⟩)
    · exact ⟨none, h⟩
    · exact ⟨some a, h⟩

theorem mapM_eq_ok_iff {read : Value → Except Error A} {tells : Value → A → Prop}
    (hread : ∀ {w a}, read w = .ok a ↔ tells w a) {items : List Value} {as : List A} :
    items.mapM read = .ok as ↔ List.Forall₂ tells items as := by
  induction items generalizing as with
  | nil => simp [pure, Except.pure, eq_comm]
  | cons item items ih =>
      simp only [List.mapM_cons, eq_ok_of_bind, ih, hread, pure, Except.pure, Except.ok.injEq,
        List.forall₂_cons_left_iff]
      constructor
      · rintro ⟨a, ha, rest, hrest, rfl⟩
        exact ⟨a, rest, ha, hrest, rfl⟩
      · rintro ⟨a, rest, ha, hrest, rfl⟩
        exact ⟨a, ha, rest, hrest, rfl⟩

theorem listOf_eq_ok_iff {read : Value → Except Error A} {tells : Value → A → Prop}
    (hread : ∀ {w a}, read w = .ok a ↔ tells w a) {as : List A} :
    listOf read v = .ok as ↔ ListOf tells v as := by
  cases v with
  | array items =>
      have hitems : listOf read (Value.array items) = items.mapM read := rfl
      simp [hitems, mapM_eq_ok_iff hread, ListOf]
  | _ => exact iff_of_false (by intro h; cases h) (by rintro ⟨items, h, _⟩; cases h)

theorem exists_listOf_iff {tells : Value → A → Prop} :
    (∃ as, ListOf tells v as) ↔ IsListOf (fun w => ∃ a, tells w a) v := by
  constructor
  · rintro ⟨as, items, rfl, has⟩
    refine ⟨items, rfl, fun item hitem => ?_⟩
    induction has with
    | nil => cases hitem
    | cons hhead _ ih =>
        rcases List.mem_cons.mp hitem with rfl | hitem
        · exact ⟨_, hhead⟩
        · exact ih hitem
  · rintro ⟨items, rfl, hall⟩
    induction items with
    | nil => exact ⟨[], [], rfl, .nil⟩
    | cons item items ih =>
        obtain ⟨a, ha⟩ := hall item (by simp)
        obtain ⟨as, _, hsame, has⟩ := ih fun other hother => hall other (by simp [hother])
        cases hsame
        exact ⟨a :: as, _, rfl, .cons ha has⟩

theorem listOf_succeeds_iff {read : Value → Except Error A} {fits : Value → Prop}
    (hread : ∀ {w}, (∃ a, read w = .ok a) ↔ fits w) :
    (∃ as, listOf read v = .ok as) ↔ IsListOf fits v := by
  have htells {as : List A} :
      listOf read v = .ok as ↔ ListOf (fun w a => read w = .ok a) v as := listOf_eq_ok_iff Iff.rfl
  simp only [htells, exists_listOf_iff, hread]

end Reading

section Values

variable {v : Value}

theorem text_succeeds_iff : (∃ s, Source.text v = .ok s) ↔ IsText v := by
  simp only [text_eq_ok_iff, Text, IsText]

theorem flag_succeeds_iff : (∃ b, Source.flag v = .ok b) ↔ IsFlag v := by
  simp only [flag_eq_ok_iff, Flag, IsFlag]

theorem optional_text_eq_ok_iff {o : Option String} :
    optionally Source.text v = .ok o ↔ NullOr Text v o :=
  optionally_eq_ok_iff text_eq_ok_iff (by simp [Text])

theorem optional_natural_eq_ok_iff {o : Option UInt64} :
    optionally Source.natural v = .ok o ↔ NullOr Natural v o :=
  optionally_eq_ok_iff natural_eq_ok_iff (by simp [Natural])

theorem optional_flag_eq_ok_iff {o : Option Bool} :
    optionally Source.flag v = .ok o ↔ NullOr Flag v o :=
  optionally_eq_ok_iff flag_eq_ok_iff (by simp [Flag])

theorem optional_integer_eq_ok_iff {o : Option Int64} :
    optionally Source.integer v = .ok o ↔ NullOr Integer v o :=
  optionally_eq_ok_iff integer_eq_ok_iff (by simp [Integer])

theorem optional_text_succeeds_iff :
    (∃ o, optionally Source.text v = .ok o) ↔ IsNullOr IsText v := by
  simp only [optional_text_eq_ok_iff, exists_nullOr_iff, Text]
  rfl

theorem optional_natural_succeeds_iff :
    (∃ o, optionally Source.natural v = .ok o) ↔ IsNullOr IsNatural v := by
  simp only [optional_natural_eq_ok_iff, exists_nullOr_iff, exists_natural_iff]

theorem optional_flag_succeeds_iff :
    (∃ o, optionally Source.flag v = .ok o) ↔ IsNullOr IsFlag v := by
  simp only [optional_flag_eq_ok_iff, exists_nullOr_iff, Flag]
  rfl

theorem optional_integer_succeeds_iff :
    (∃ o, optionally Source.integer v = .ok o) ↔ IsNullOr IsInteger v := by
  simp only [optional_integer_eq_ok_iff, exists_nullOr_iff, exists_integer_iff]

end Values

end Json

/-- The value is the tag of the mode. -/
def Mode.NamedBy (v : Value) (m : Mode) : Prop := ∃ tag, v = .string tag ∧ Mode.ofTag tag = m

theorem Mode.read_eq_ok_iff {v : Value} {m : Mode} : Mode.read v = .ok m ↔ Mode.NamedBy v m := by
  simp only [Mode.read, eq_ok_of_bind, text_eq_ok_iff, Text, pure, Except.pure, Except.ok.injEq,
    NamedBy]

theorem Mode.read_succeeds_iff {v : Value} : (∃ m, Mode.read v = .ok m) ↔ IsText v := by
  simp only [Mode.read_eq_ok_iff, NamedBy, IsText]
  exact ⟨fun ⟨_, tag, h, _⟩ => ⟨tag, h⟩, fun ⟨tag, h⟩ => ⟨_, tag, h, rfl⟩⟩

/-- The value is the word of the action. -/
def Action.NamedBy (v : Value) (a : Action) : Prop :=
  ∃ word, v = .string word ∧ Action.ofWord word = a

theorem Action.read_eq_ok_iff {v : Value} {a : Action} :
    Action.read v = .ok a ↔ Action.NamedBy v a := by
  simp only [Action.read, eq_ok_of_bind, text_eq_ok_iff, Text, pure, Except.pure, Except.ok.injEq,
    NamedBy]

theorem Action.read_succeeds_iff {v : Value} : (∃ a, Action.read v = .ok a) ↔ IsText v := by
  simp only [Action.read_eq_ok_iff, NamedBy, IsText]
  exact ⟨fun ⟨_, word, h, _⟩ => ⟨word, h⟩, fun ⟨word, h⟩ => ⟨_, word, h, rfl⟩⟩

namespace Match

/-- The fields of a match in documents. -/
def clauses : List Clause :=
  [⟨"mode", true, IsText⟩,
    ⟨"regex", false, IsFlag⟩,
    ⟨"channel_name", false, IsNullOr IsText⟩,
    ⟨"user_name", false, IsNullOr IsText⟩,
    ⟨"user_id", false, IsNullOr IsNatural⟩,
    ⟨"is_admin", false, IsNullOr IsFlag⟩,
    ⟨"message_title", false, IsNullOr IsText⟩,
    ⟨"message_text", false, IsNullOr IsText⟩,
    ⟨"message_extra", false, IsNullOr IsText⟩,
    ⟨"priority", false, IsNullOr IsInteger⟩]

def IsDocument (v : Value) : Prop := IsRecord clauses true v

/-- The value is the document of a match and tells this one. -/
@[mk_iff]
structure Describes (v : Value) (m : Match) : Prop where
  document : IsDocument v
  mode : Given Mode.NamedBy none (Clause.part? clauses "mode" v) m.mode
  regex : Given Flag (some false) (Clause.part? clauses "regex" v) m.regex
  channelName :
    Given (NullOr Text) (some none) (Clause.part? clauses "channel_name" v) m.channelName
  userName : Given (NullOr Text) (some none) (Clause.part? clauses "user_name" v) m.userName
  userId : Given (NullOr Natural) (some none) (Clause.part? clauses "user_id" v) m.userId
  isAdmin : Given (NullOr Flag) (some none) (Clause.part? clauses "is_admin" v) m.isAdmin
  messageTitle :
    Given (NullOr Text) (some none) (Clause.part? clauses "message_title" v) m.messageTitle
  messageText :
    Given (NullOr Text) (some none) (Clause.part? clauses "message_text" v) m.messageText
  messageExtra :
    Given (NullOr Text) (some none) (Clause.part? clauses "message_extra" v) m.messageExtra
  priority : Given (NullOr Integer) (some none) (Clause.part? clauses "priority" v) m.priority

theorem regular_schema : (schema (N := Value)).Regular where
  names_nodup := by decide
  apart := by simp [schema, Field.needed, Field.defaulted]
  ext := by
    rintro ⟨⟩ ⟨⟩ h
    simpa [schema, Field.needed, Field.defaulted] using h

theorem clauses_schema : (schema (N := Value)).clauses = clauses := by
  simp only [Schema.clauses, schema, clauses, List.map_cons, List.map_nil, Field.clause_needed,
    Field.clause_defaulted, Mode.read_succeeds_iff, flag_succeeds_iff, optional_text_succeeds_iff,
    optional_natural_succeeds_iff, optional_flag_succeeds_iff, optional_integer_succeeds_iff]

theorem read_succeeds_iff {v : Value} : (∃ m, Match.read v = .ok m) ↔ IsDocument v :=
  Schema.read_succeeds_iff regular_schema clauses_schema

theorem read_eq_ok_iff {v : Value} {m : Match} : Match.read v = .ok m ↔ Describes v m := by
  rw [Match.read, Schema.read_eq_ok_iff regular_schema clauses_schema, describes_iff, IsDocument]
  simp [schema, Field.gives_needed, Field.gives_defaulted, Mode.read_eq_ok_iff, flag_eq_ok_iff,
    optional_text_eq_ok_iff, optional_natural_eq_ok_iff, optional_flag_eq_ok_iff,
    optional_integer_eq_ok_iff]

theorem readAll_eq_ok_iff {v : Value} {ms : List Match} :
    Match.readAll v = .ok ms ↔ ListOf Describes v ms :=
  listOf_eq_ok_iff read_eq_ok_iff

end Match

namespace Rule

/-- The fields of a rule in documents. -/
def clauses : List Clause :=
  [⟨"match", true, IsListOf Match.IsDocument⟩, ⟨"action", true, IsText⟩]

def IsDocument (v : Value) : Prop := IsRecord clauses true v

/-- The value is the document of a rule and tells this one. -/
@[mk_iff]
structure Describes (v : Value) (r : Rule) : Prop where
  document : IsDocument v
  conditions : Given (ListOf Match.Describes) none (Clause.part? clauses "match" v) r.conditions
  action : Given Action.NamedBy none (Clause.part? clauses "action" v) r.action

theorem regular_schema : (schema (N := Value)).Regular where
  names_nodup := by decide
  apart := by simp [schema, Field.needed]
  ext := by
    rintro ⟨⟩ ⟨⟩ h
    simpa [schema, Field.needed] using h

theorem clauses_schema : (schema (N := Value)).clauses = clauses := by
  simp only [Schema.clauses, schema, clauses, List.map_cons, List.map_nil, Field.clause_needed,
    Match.readAll, listOf_succeeds_iff Match.read_succeeds_iff, Action.read_succeeds_iff]

theorem read_succeeds_iff {v : Value} : (∃ r, Rule.read v = .ok r) ↔ IsDocument v :=
  Schema.read_succeeds_iff regular_schema clauses_schema

theorem read_eq_ok_iff {v : Value} {r : Rule} : Rule.read v = .ok r ↔ Describes v r := by
  rw [Rule.read, Schema.read_eq_ok_iff regular_schema clauses_schema, describes_iff, IsDocument]
  simp [schema, Field.gives_needed, Match.readAll_eq_ok_iff, Action.read_eq_ok_iff]

end Rule

namespace Chain

def IsDocument (v : Value) : Prop := IsListOf Rule.IsDocument v

/-- The value is the document of a chain, which is the list of its rules, and tells this one. -/
def Describes (v : Value) (c : Chain) : Prop := ListOf Rule.Describes v c.rules

theorem read_eq_ok_iff_rules {v : Value} {c : Chain} :
    Chain.read v = .ok c ↔ listOf Rule.read v = .ok c.rules := by
  simp only [Chain.read, eq_ok_of_bind, pure, Except.pure, Except.ok.injEq]
  constructor
  · rintro ⟨rules, hread, rfl⟩
    exact hread
  · intro h
    exact ⟨c.rules, h, rfl⟩

theorem read_eq_ok_iff {v : Value} {c : Chain} : Chain.read v = .ok c ↔ Describes v c :=
  read_eq_ok_iff_rules.trans (listOf_eq_ok_iff Rule.read_eq_ok_iff)

theorem read_succeeds_iff {v : Value} : (∃ c, Chain.read v = .ok c) ↔ IsDocument v := by
  rw [IsDocument, ← listOf_succeeds_iff Rule.read_succeeds_iff]
  simp only [read_eq_ok_iff_rules]
  exact ⟨fun ⟨c, h⟩ => ⟨c.rules, h⟩, fun ⟨rules, h⟩ => ⟨⟨rules⟩, h⟩⟩

end Chain

namespace Channel

/-- The fields of a channel in documents. -/
def clauses : List Clause := [⟨"name", true, IsText⟩, ⟨"public", false, IsFlag⟩]

def IsDocument (v : Value) : Prop := IsRecord clauses true v

/-- The value is the document of a channel and tells this one. -/
@[mk_iff]
structure Describes (v : Value) (c : Channel) : Prop where
  document : IsDocument v
  name : Given Text none (Clause.part? clauses "name" v) c.name
  isPublic : Given Flag (some false) (Clause.part? clauses "public" v) c.isPublic

theorem regular_schema : (schema (N := Value)).Regular where
  names_nodup := by decide
  apart := by simp [schema, Field.needed, Field.defaulted]
  ext := by
    rintro ⟨⟩ ⟨⟩ h
    simpa [schema, Field.needed, Field.defaulted] using h

theorem clauses_schema : (schema (N := Value)).clauses = clauses := by
  simp only [Schema.clauses, schema, clauses, List.map_cons, List.map_nil, Field.clause_needed,
    Field.clause_defaulted, text_succeeds_iff, flag_succeeds_iff]

theorem read_succeeds_iff {v : Value} : (∃ c, Channel.read v = .ok c) ↔ IsDocument v :=
  Schema.read_succeeds_iff regular_schema clauses_schema

theorem read_eq_ok_iff {v : Value} {c : Channel} : Channel.read v = .ok c ↔ Describes v c := by
  rw [Channel.read, Schema.read_eq_ok_iff regular_schema clauses_schema, describes_iff, IsDocument]
  simp [schema, Field.gives_needed, Field.gives_defaulted, text_eq_ok_iff, flag_eq_ok_iff]

end Channel

namespace Config

/-- The fields of a configuration in documents. -/
def clauses : List Clause :=
  [⟨"channels", false, IsListOf Channel.IsDocument⟩,
    ⟨"sender_filter", false, Chain.IsDocument⟩,
    ⟨"receiver_filter", false, Chain.IsDocument⟩]

def IsDocument (v : Value) : Prop := IsRecord clauses true v

/-- The value is the document of a configuration and tells this one. -/
@[mk_iff]
structure Describes (v : Value) (c : Config) : Prop where
  document : IsDocument v
  channels :
    Given (ListOf Channel.Describes) (some []) (Clause.part? clauses "channels" v) c.channels
  senderFilter :
    Given Chain.Describes (some ⟨[]⟩) (Clause.part? clauses "sender_filter" v) c.senderFilter
  receiverFilter :
    Given Chain.Describes (some ⟨[]⟩) (Clause.part? clauses "receiver_filter" v) c.receiverFilter

theorem regular_schema : (schema (N := Value)).Regular where
  names_nodup := by decide
  apart := by simp [schema, Field.defaulted]
  ext := by
    rintro ⟨⟩ ⟨⟩ h
    simpa [schema, Field.defaulted] using h

theorem clauses_schema : (schema (N := Value)).clauses = clauses := by
  simp only [Schema.clauses, schema, clauses, List.map_cons, List.map_nil, Field.clause_defaulted,
    listOf_succeeds_iff Channel.read_succeeds_iff, Chain.read_succeeds_iff]

theorem read_succeeds_iff {v : Value} : (∃ c, Config.read v = .ok c) ↔ IsDocument v :=
  Schema.read_succeeds_iff regular_schema clauses_schema

theorem read_eq_ok_iff {v : Value} {c : Config} : Config.read v = .ok c ↔ Describes v c := by
  rw [Config.read, Schema.read_eq_ok_iff regular_schema clauses_schema, describes_iff, IsDocument]
  simp [schema, Field.gives_defaulted, listOf_eq_ok_iff Channel.read_eq_ok_iff,
    Chain.read_eq_ok_iff]

/-- Reading a configuration succeeds on exactly the documents of the grammar, and gives exactly the
configuration that the document tells. -/
theorem reads_grammar (v : Value) :
    ((∃ c, Config.read v = .ok c) ↔ IsDocument v) ∧
      ∀ c, Config.read v = .ok c ↔ Describes v c :=
  ⟨read_succeeds_iff, fun _ => read_eq_ok_iff⟩

end Config

end BroadcastFilter
