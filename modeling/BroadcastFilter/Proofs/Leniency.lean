import BroadcastFilter.Chain
import BroadcastFilter.Proofs.Restated
import BroadcastFilter.Proofs.RoundTrip
import Mathlib.Data.List.Induction
import Mathlib.Data.String.Basic

/-!
Messages are read leniently but exactly. A document may leave out any field and may hold names that
are no field's, in the message and in its users, and its entries may stand in any order; nothing of
this changes which message is read, and neither does writing out the defaults. But every field that
is there has a value of its own kind, which is never null, and becomes what this value says.
-/

namespace BroadcastFilter

open Json Decode

namespace Dictionary

variable {A : Type}

theorem lookup_insertEntry (key name : String) (value : A) (entries : List (String × A)) :
    (insertEntry name value entries).lookup key =
      if key = name then some value else entries.lookup key := by
  induction entries with
  | nil =>
      by_cases hkey : key = name <;> simp [insertEntry, List.lookup_cons, hkey, beq_false_of_ne]
  | cons e entries ih =>
      obtain ⟨other, v⟩ := e
      rw [insertEntry]
      split
      · by_cases hkey : key = name <;> simp [List.lookup_cons, hkey, beq_false_of_ne]
      next hnot =>
        split
        next hbelow =>
          rw [List.lookup_cons, ih, List.lookup_cons]
          by_cases hkey : key = name
          · simp [hkey, beq_false_of_ne hbelow.ne']
          · simp [hkey]
        next hnot' =>
          have hsame : name = other := String.le_antisymm (not_lt.mp hnot') (not_lt.mp hnot)
          by_cases hkey : key = other <;> simp [List.lookup_cons, hsame, hkey, beq_false_of_ne]

/-- A key has its last value in the list that a dictionary is made from. -/
theorem lookup_ofList (entries : List (String × A)) (key : String) :
    (ofList entries).entries.lookup key = entries.reverse.lookup key := by
  induction entries using List.reverseRecOn with
  | nil => rfl
  | append_singleton entries e ih =>
      have hinsert : (ofList (entries ++ [e])).entries =
          insertEntry e.1 e.2 (ofList entries).entries := by
        simp only [ofList, List.foldl_append, List.foldl_cons, List.foldl_nil, insert]
      rw [hinsert, lookup_insertEntry, ih, List.reverse_append, List.reverse_singleton,
        List.singleton_append, List.lookup_cons]
      by_cases hkey : key = e.1 <;> simp [hkey, beq_false_of_ne]

theorem nodup_keys (d : Dictionary A) : (d.entries.map (·.1)).Nodup :=
  List.pairwise_map.mpr (d.ascending.imp fun h => ne_of_lt h)

/-- A dictionary is known by the values of its keys. -/
theorem eq_of_lookup {d d' : Dictionary A}
    (h : ∀ key, d.entries.lookup key = d'.entries.lookup key) : d = d' := by
  have hmem (d : Dictionary A) (e : String × A) : e ∈ d.entries ↔ d.entries.lookup e.1 = some e.2 :=
    ⟨lookup_eq_some_of_mem d.nodup_keys, mem_of_lookup_eq_some⟩
  have hperm : d.entries.Perm d'.entries :=
    (List.perm_ext_iff_of_nodup d.nodup_keys.of_map d'.nodup_keys.of_map).mpr fun e => by
      rw [hmem, hmem, h]
  exact ext (hperm.eq_of_pairwise (fun _ _ _ _ hlt hgt => absurd hgt (lt_asymm hlt)) d.ascending
    d'.ascending)

theorem ofList_eq_of_perm {entries entries' : List (String × A)} (hperm : entries.Perm entries')
    (hnodup : (entries.map (·.1)).Nodup) : ofList entries = ofList entries' := by
  refine eq_of_lookup fun key => ?_
  rw [lookup_ofList, lookup_ofList]
  have hreverse := (List.reverse_perm entries).trans (hperm.trans (List.reverse_perm entries').symm)
  refine lookup_eq_of_perm hreverse fun v w hv hw => ?_
  have hv := lookup_eq_some_of_mem hnodup (List.mem_reverse.mp hv)
  have hw := lookup_eq_some_of_mem hnodup (List.mem_reverse.mp hw)
  exact Option.some.inj (hv.symm.trans hw)

end Dictionary

/-- The values are objects with the same entries in some order, no key twice. -/
def Json.Reordered (v w : Value) : Prop :=
  ∃ entries entries', v = .object entries ∧ w = .object entries' ∧ entries.Perm entries' ∧
    (entries.map (·.1)).Nodup

namespace User

/-- The fields of a user that is described by nothing. -/
def defaults : List (String × Value) :=
  [("id", natural 0), ("name", .string ""), ("admin", .bool false)]

def Restated : Value → Value → Prop := Json.Restated defaults fun _ _ _ => False

def completed : Value → Value := Json.completed defaults fun _ v => v

theorem suits : Suits clauses defaults fun _ _ _ => False where
  names_eq := rfl
  names_nodup := by decide
  spare := by decide
  blank := (describes_toValue {}).document
  inner_fits := fun _ _ _ _ h => h.elim

theorem read_eq_ok_iff_of_restated {v w : Value} (h : Restated v w) (u : User) :
    User.read v = .ok u ↔ User.read w = .ok u :=
  h.read_eq_ok_iff regular_schema clauses_schema rfl suits (read_toValue {})
    (fun _ _ _ _ hinner => hinner.elim) u

theorem restated_completed (v : Value) : Restated v (completed v) :=
  Json.restated_completed (by decide) (fun _ _ => .inl rfl) v

/-- In the completion every field of a user has its part of the document, or the default. -/
theorem part?_completed {v : Value} (h : IsDocument v) (name : String) :
    Clause.part? clauses name (completed v) =
      (Clause.part? clauses name v).or (Clause.part? clauses name (toValue {})) := by
  have hpart := Json.part?_completed suits (fun _ v => v) h name
  rwa [Option.map_id'] at hpart

end User

namespace Message

/-- The fields of a message that is described by nothing. -/
def defaults : List (String × Value) :=
  [("sender", .object User.defaults),
    ("receiver", .object User.defaults),
    ("title", .string ""),
    ("text", .string ""),
    ("extras", .object []),
    ("priority", integer 0),
    ("channel_name", .string ""),
    ("outbound", .bool false)]

/-- Inside a message, the documents of its users may be restated and its extras reordered. -/
def PartRestated (name : String) (v w : Value) : Prop :=
  name ∈ ["sender", "receiver"] ∧ User.Restated v w ∨ name = "extras" ∧ Reordered v w

def Restated : Value → Value → Prop := Json.Restated defaults PartRestated

/-- The completion of what stands under a name of a message. -/
def completedPart (name : String) (v : Value) : Value :=
  if name ∈ ["sender", "receiver"] then User.completed v else v

def completed : Value → Value := Json.completed defaults completedPart

section PartRestated

variable {v w : Value}

theorem partRestated_user_iff {name : String} (hname : name ∈ ["sender", "receiver"]) :
    PartRestated name v w ↔ User.Restated v w := by
  have hne : name ≠ "extras" := by
    rintro rfl
    revert hname
    decide
  simp only [PartRestated, hname, hne, true_and, false_and, or_false]

theorem partRestated_extras_iff : PartRestated "extras" v w ↔ Reordered v w := by
  simp [PartRestated]

theorem not_partRestated {name : String} (hname : name ∉ ["sender", "receiver", "extras"]) :
    ¬ PartRestated name v w := by
  rintro (⟨huser, -⟩ | ⟨rfl, -⟩)
  · exact hname (List.mem_append_left ["extras"] huser)
  · exact hname (by decide)

theorem values_eq_ok_iff_of_reordered (h : Reordered v w) (d : Dictionary Value) :
    Source.values v = .ok d ↔ Source.values w = .ok d := by
  obtain ⟨entries, entries', rfl, rfl, hperm, hnodup⟩ := h
  have hsame := Dictionary.ofList_eq_of_perm hperm hnodup
  simp only [values_eq_ok_iff, Entries, Value.object.injEq, exists_eq_left', hsame]

/-- A restatement inside a part leaves to the reader of its field what the part tells. -/
theorem readValue_eq_ok_iff {f : Field Value Message} (hf : f ∈ schema.fields)
    (h : PartRestated f.name v w) (a : f.Component) :
    f.readValue v = .ok a ↔ f.readValue w = .ok a := by
  have huser {name : String} (hname : name ∈ ["sender", "receiver"]) (h : PartRestated name v w) :=
    User.read_eq_ok_iff_of_restated ((partRestated_user_iff hname).mp h)
  simp only [schema, List.mem_cons, List.not_mem_nil, or_false] at hf
  obtain rfl | rfl | rfl | rfl | rfl | rfl | rfl | rfl := hf
  · exact huser (by decide) h a
  · exact huser (by decide) h a
  · exact absurd h (not_partRestated (by decide))
  · exact absurd h (not_partRestated (by decide))
  · exact values_eq_ok_iff_of_reordered (partRestated_extras_iff.mp h) a
  · exact absurd h (not_partRestated (by decide))
  · exact absurd h (not_partRestated (by decide))
  · exact absurd h (not_partRestated (by decide))

end PartRestated

theorem suits : Suits clauses defaults PartRestated where
  names_eq := rfl
  names_nodup := by decide
  spare := by decide
  blank := isDocument_toValue {}
  inner_fits := by
    intro c hc v w h
    rw [← clauses_schema] at hc
    obtain ⟨f, hf, rfl⟩ := List.mem_map.mp hc
    exact exists_congr (readValue_eq_ok_iff hf h)

theorem read_eq_ok_iff_of_restated {v w : Value} (h : Restated v w) (m : Message) :
    Message.read v = .ok m ↔ Message.read w = .ok m :=
  h.read_eq_ok_iff regular_schema clauses_schema rfl suits (read_toValue {})
    (fun _ hf => readValue_eq_ok_iff hf) m

theorem restated_completed (v : Value) : Restated v (completed v) := by
  refine Json.restated_completed (by decide) (fun name v => ?_) v
  by_cases hname : name ∈ ["sender", "receiver"]
  · rw [completedPart, if_pos hname]
    exact .inr (.inl ⟨hname, User.restated_completed v⟩)
  · exact .inl (if_neg hname)

/-- The extras of a message that was read are those of its document; the last of several with one
key counts. -/
theorem lookup_extras {v : Value} {m : Message} (h : Message.read v = .ok m)
    {entries : List (String × Value)}
    (hextras : Clause.part? clauses "extras" v = some (.object entries)) (key : String) :
    m.extras.entries.lookup key = entries.reverse.lookup key := by
  have hgiven := (read_eq_ok_iff.mp h).extras
  rw [hextras] at hgiven
  obtain ⟨_, heq, hdictionary⟩ := hgiven
  cases heq
  rw [← hdictionary, Dictionary.lookup_ofList]

/-- In the completion every field of a message has its part of the document, completed, or the
default. -/
theorem part?_completed {v : Value} (h : IsDocument v) (name : String) :
    Clause.part? clauses name (completed v) =
      ((Clause.part? clauses name v).map (completedPart name)).or
        (Clause.part? clauses name (toValue {})) :=
  Json.part?_completed suits completedPart h name

/-- No field of a message or a user may be null. -/
theorem not_fits_null {c : Clause} (hc : c ∈ clauses ++ User.clauses) : ¬ c.fits .null := by
  simp only [clauses, User.clauses, List.cons_append, List.nil_append, List.mem_cons,
    List.not_mem_nil, or_false] at hc
  obtain rfl | rfl | rfl | rfl | rfl | rfl | rfl | rfl | rfl | rfl | rfl := hc <;>
    simp [IsText, IsFlag, IsNatural, IsInteger, IsObject, User.IsDocument, IsRecord]

/-- Messages are read leniently but exactly. Reading succeeds on the documents of messages and gives
what they describe. These are the objects in which every field that is there has a value of its
kind, and the arrays of such values for the first fields; users are judged in the same way, and null
is of no kind. The extras are kept. Every restatement of a document, with other names added or taken
away at both levels, entries reordered and defaults written out, is read as the same message. So is
the completion with all defaults, which gets the same decision from every chain. -/
theorem reads_leniently :
    (∀ v, (∃ m, Message.read v = .ok m) ↔ IsDocument v) ∧
      (∀ v m, Message.read v = .ok m ↔ Describes v m) ∧
      (∀ entries, (entries.map (·.1)).Nodup →
        (IsDocument (.object entries) ↔
          ∀ c ∈ clauses, ∀ v, (c.name, v) ∈ entries → c.fits v) ∧
        (User.IsDocument (.object entries) ↔
          ∀ c ∈ User.clauses, ∀ v, (c.name, v) ∈ entries → c.fits v)) ∧
      (∀ items,
        (IsDocument (.array items) ↔
          items.length ≤ clauses.length ∧ ∀ p ∈ clauses.zip items, p.1.fits p.2) ∧
        (User.IsDocument (.array items) ↔
          items.length ≤ User.clauses.length ∧ ∀ p ∈ User.clauses.zip items, p.1.fits p.2)) ∧
      (∀ c ∈ clauses ++ User.clauses, ¬ c.fits .null) ∧
      (∀ v m entries, Message.read v = .ok m →
        Clause.part? clauses "extras" v = some (.object entries) →
          ∀ key, m.extras.entries.lookup key = entries.reverse.lookup key) ∧
      (∀ v w, Restated v w → ∀ m, Message.read v = .ok m ↔ Message.read w = .ok m) ∧
      (∀ v u, User.read v = .ok u → ∀ name,
        Clause.part? User.clauses name (User.completed v) =
          (Clause.part? User.clauses name v).or (Clause.part? User.clauses name (User.toValue {}))) ∧
      ∀ v m, Message.read v = .ok m →
        (∀ name, Clause.part? clauses name (completed v) =
          ((Clause.part? clauses name v).map (completedPart name)).or
            (Clause.part? clauses name (toValue {}))) ∧
        ∃ m', Message.read (completed v) = .ok m' ∧ m' = m ∧
          ∀ (search : Search) (c : Chain) (default : Action),
            c.evaluate search m' default = c.evaluate search m default := by
  refine ⟨fun v => read_succeeds_iff, fun v m => read_eq_ok_iff, ?_, ?_, fun c => not_fits_null,
    fun v m entries h => lookup_extras h, fun v w => read_eq_ok_iff_of_restated, ?_, ?_⟩
  · intro entries hnodup
    exact ⟨isRecord_object_iff suits.spare hnodup, isRecord_object_iff User.suits.spare hnodup⟩
  · intro items
    exact ⟨isRecord_array_iff suits.spare, isRecord_array_iff User.suits.spare⟩
  · intro v u h
    exact User.part?_completed (User.read_succeeds_iff.mp ⟨u, h⟩)
  · intro v m h
    have hcompleted := (read_eq_ok_iff_of_restated (restated_completed v) m).mp h
    exact ⟨part?_completed (read_succeeds_iff.mp ⟨m, h⟩), m, hcompleted, rfl,
      fun search c default => rfl⟩

/-- The document of a message that came in with some names more than it needs. -/
def untidy : Value :=
  .object
    [("priority", integer 3),
      ("extras", .object [("b", .bool true), ("a", .null)]),
      ("seen", .null),
      ("sender", .object [("id", natural 7), ("colour", .string "red")])]

def tidied : Value :=
  .object
    [("sender", .object [("id", natural 7)]),
      ("extras", .object [("a", .null), ("b", .bool true)]),
      ("priority", integer 3)]

theorem restated_untidy : Restated untidy tidied := by
  have hcolour : User.Restated (.object [("id", natural 7), ("colour", .string "red")])
      (.object [("id", natural 7)]) :=
    .symm _ _ (.rel _ _ (@Edited.extra _ _ [_] [] "colour" _ (by decide)))
  have hextras : Reordered (.object [("b", .bool true), ("a", .null)])
      (.object [("a", .null), ("b", .bool true)]) :=
    ⟨_, _, rfl, rfl, .swap _ _ _, by decide⟩
  have hunseen : Edited defaults PartRestated _ untidy :=
    @Edited.extra _ _ [_, _] [_] "seen" .null (by decide)
  have hsender : Edited defaults PartRestated _ _ :=
    @Edited.within _ _
      [("priority", integer 3), ("extras", .object [("b", .bool true), ("a", .null)])] [] "sender"
      _ _ (.inl ⟨by decide, hcolour⟩)
  have hreordered : Edited defaults PartRestated _ _ :=
    @Edited.within _ _ [("priority", integer 3)] [("sender", .object [("id", natural 7)])] "extras"
      _ _ (.inr ⟨rfl, hextras⟩)
  have hturned : Edited defaults PartRestated _ tidied :=
    .reordered (List.reverse_perm _)
  exact .trans _ _ _ (.symm _ _ (.rel _ _ hunseen)) (.trans _ _ _ (.rel _ _ hsender)
    (.trans _ _ _ (.rel _ _ hreordered) (.rel _ _ hturned)))

theorem reads_leniently_untidy :
    ∃ m, Message.read untidy = .ok m ∧ Message.read tidied = .ok m ∧
      Message.read (completed untidy) = .ok m ∧ m.sender = { id := 7 } ∧ m.priority = 3 ∧
      m.extras.entries.lookup "a" = some .null ∧ m.extras.entries.lookup "b" = some (.bool true) ∧
      User.IsDocument (.object [("id", natural 7)]) := by
  obtain ⟨-, -, hobject, -, -, hextras, hrestated, -, hcompleted⟩ := reads_leniently
  have hread : Message.read untidy = .ok
      { sender := { id := 7 }
        extras := Dictionary.ofList [("a", .null), ("b", .bool true)]
        priority := 3 } := rfl
  obtain ⟨-, m, hm, rfl, -⟩ := hcompleted untidy _ hread
  refine ⟨_, hread, (hrestated untidy tidied restated_untidy _).mp hread, hm, rfl, rfl, ?_, ?_, ?_⟩
  · exact hextras untidy _ _ hread rfl "a"
  · exact hextras untidy _ _ hread rfl "b"
  · refine (hobject [("id", natural 7)] (by decide)).2.mpr fun c hc v hv => ?_
    obtain ⟨hname, rfl⟩ := Prod.mk.inj (List.mem_singleton.mp hv)
    simp only [User.clauses, List.mem_cons, List.not_mem_nil, or_false] at hc
    obtain rfl | rfl | rfl := hc
    · exact isNatural_natural 7
    · exact absurd hname (by decide)
    · exact absurd hname (by decide)

end Message

end BroadcastFilter
