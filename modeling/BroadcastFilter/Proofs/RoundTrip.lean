import BroadcastFilter.Message.Written
import BroadcastFilter.Proofs.Canonical
import BroadcastFilter.Proofs.MessageGrammar

/-!
Writing values as documents and reading them back. What is written for a match, a rule, a chain, a
channel or a configuration is a document of the grammar, and tells the norm of what was written; so
exactly the canonical values come back as they were. Whatever was read from a document is canonical,
and its tags and words are written as they stood in that document. Users and messages always come
back as they were.
-/

namespace BroadcastFilter

open Json Decode

namespace Json

/-- A field has a value that it may have, or it has none and need not be there. -/
def Clause.Supplied (c : Clause) : Option Value → Prop
  | some v => c.fits v
  | none => c.needed = false

/-- An object that has entries for some of the fields, in the order of the fields, is a record if it
supplies every field. -/
theorem isRecord_of_supplied {clauses : List Clause} {strict : Bool} {v : Value}
    {entries : List (String × Value)} (hclauses : (clauses.map (·.name)).Nodup)
    (hv : v = .object entries) (hnames : (entries.map (·.1)).Sublist (clauses.map (·.name)))
    (hsupplied : ∀ c ∈ clauses, c.Supplied (Clause.part? clauses c.name v)) :
    IsRecord clauses strict v := by
  subst hv
  have hnodup := hclauses.sublist hnames
  refine ⟨fun _ e he => hnames.subset (List.mem_map_of_mem he), hnodup.filter _, ?_, ?_⟩
  · intro c hc hneeded
    by_contra habsent
    have hspare := hsupplied c hc
    rw [Clause.part?, lookup_eq_none_iff_not_mem.mpr habsent] at hspare
    exact Bool.false_ne_true (hspare.symm.trans hneeded)
  · intro c hc v hv
    have hfits := hsupplied c hc
    rwa [Clause.part?, lookup_eq_some_of_mem hnodup hv] at hfits

/-- The entries of those slots that hold a value. -/
def filled (slots : List (String × Option Value)) : List (String × Value) :=
  slots.flatMap fun s => optionalEntry s.1 id s.2

@[simp] theorem optionalEntry_none {A : Type} (name : String) (write : A → Value) :
    optionalEntry name write none = [] := rfl

@[simp] theorem optionalEntry_some {A : Type} (name : String) (write : A → Value) (a : A) :
    optionalEntry name write (some a) = [(name, write a)] := rfl

theorem optionalEntry_map {A : Type} (name : String) (write : A → Value) (held : Option A) :
    optionalEntry name id (held.map write) = optionalEntry name write held := by
  cases held <;> rfl

theorem names_filled_sublist (slots : List (String × Option Value)) :
    ((filled slots).map (·.1)).Sublist (slots.map (·.1)) := by
  induction slots with
  | nil => exact .slnil
  | cons s slots ih =>
      obtain ⟨name, held⟩ := s
      cases held with
      | none => exact ih.cons name
      | some v => exact ih.cons_cons name

theorem lookup_filled {slots : List (String × Option Value)} (hnodup : (slots.map (·.1)).Nodup)
    (name : String) : (filled slots).lookup name = (slots.lookup name).join := by
  induction slots with
  | nil => rfl
  | cons s slots ih =>
      obtain ⟨other, held⟩ := s
      obtain ⟨hfirst, hnodup⟩ := List.nodup_cons.mp hnodup
      rw [filled, List.flatMap_cons, ← filled, List.lookup_append, ih hnodup, List.lookup_cons]
      by_cases hname : name = other
      · subst hname
        have hlater := lookup_eq_none_iff_not_mem.mpr hfirst
        cases held <;> simp [hlater]
      · cases held <;> simp [beq_false_of_ne hname, List.lookup_cons]

theorem Clause.supplied_slot {A : Type} {fits : Value → Prop} {write : A → Value} {name : String}
    {part : Option Value} {held : Option A} (hpart : part = held.map write)
    (hwrite : ∀ a, fits (write a)) : Clause.Supplied ⟨name, false, IsNullOr fits⟩ part := by
  subst hpart
  cases held with
  | none => rfl
  | some a => exact .inr (hwrite a)

theorem Clause.supplied_of_fits {c : Clause} {part : Option Value} {v : Value}
    (hpart : part = some v) (hfits : c.fits v) : c.Supplied part := by
  rwa [hpart]

/-- What a slot holds is told by its part, which is left out if the slot holds nothing. -/
theorem given_slot {A : Type} {tells : Value → A → Prop} {write : A → Value}
    {part : Option Value} {held : Option A} (hpart : part = held.map write)
    (hwrite : ∀ a, tells (write a) a) : Given (NullOr tells) (some none) part held := by
  subst hpart
  cases held with
  | none => rfl
  | some a => exact hwrite a

theorem given_of_tells {A : Type} {tells : Value → A → Prop} {default : Option A}
    {part : Option Value} {v : Value} {a : A} (hpart : part = some v) (htells : tells v a) :
    Given tells default part a := by
  rwa [hpart]

/-- A component without default has a part. -/
theorem Given.exists_part {A : Type} {tells : Value → A → Prop} {part : Option Value} {a : A}
    (h : Given tells none part a) : ∃ v, part = some v ∧ tells v a := by
  cases part with
  | none => cases h
  | some v => exact ⟨v, rfl, h⟩

/-- The items of an array. -/
def Value.items : Value → List Value
  | .array items => items
  | _ => []

theorem isText_string (s : String) : IsText (.string s) := ⟨s, rfl⟩

theorem isFlag_bool (b : Bool) : IsFlag (.bool b) := ⟨b, rfl⟩

theorem isNatural_natural (n : UInt64) : IsNatural (BroadcastFilter.natural n) :=
  exists_natural_iff.mp ⟨n, rfl⟩

theorem isInteger_integer (n : Int64) : IsInteger (BroadcastFilter.integer n) :=
  exists_integer_iff.mp ⟨n, rfl⟩

end Json

/-- What there is to say of values that are written as documents and read back: they come back as
their norm, so exactly the canonical ones come back as they were. What was read from a document is
its own norm, comes back as it was, and its tags are written as they stand in the document. -/
structure RoundTrip {A : Type} (write : A → Value) (read : Value → Except Decode.Error A)
    (norm : A → A) (Canonical : A → Prop) (tagsIn : Value → List Value) : Prop where
  read_write : ∀ a, read (write a) = .ok (norm a)
  read_write_iff : ∀ a, read (write a) = .ok a ↔ Canonical a
  norm_of_read : ∀ v a, read v = .ok a → norm a = a
  reread : ∀ v a, read v = .ok a → read (write a) = .ok a
  tags_kept : ∀ v a, read v = .ok a → tagsIn (write a) = tagsIn v

namespace RoundTrip

variable {A : Type} {write : A → Value} {read : Value → Except Decode.Error A} {norm : A → A}
  {Canonical : A → Prop} {tagsIn : Value → List Value}

theorem of_canonical (hwrite : ∀ a, read (write a) = .ok (norm a))
    (hnorm : ∀ {a}, norm a = a ↔ Canonical a) (hread : ∀ v a, read v = .ok a → Canonical a)
    (htags : ∀ v a, read v = .ok a → tagsIn (write a) = tagsIn v) :
    RoundTrip write read norm Canonical tagsIn where
  read_write := hwrite
  read_write_iff a := by rw [hwrite, Except.ok.injEq, hnorm]
  norm_of_read v a h := hnorm.mpr (hread v a h)
  reread v a h := by rw [hwrite, hnorm.mpr (hread v a h)]
  tags_kept := htags

theorem canonical_of_read (h : RoundTrip write read norm Canonical tagsIn) {v : Value} {a : A}
    (hread : read v = .ok a) : Canonical a :=
  (h.read_write_iff a).mp (h.reread v a hread)

/-- What is true of the values is true of lists of them. -/
theorem list (h : RoundTrip write read norm Canonical tagsIn) :
    RoundTrip (fun as => .array (as.map write)) (listOf read) (fun as => as.map norm)
      (fun as => ∀ a ∈ as, Canonical a) (fun v => v.items.flatMap tagsIn) := by
  have hread {v : Value} {as : List A} :
      listOf read v = .ok as ↔ ListOf (fun w a => read w = .ok a) v as := listOf_eq_ok_iff Iff.rfl
  refine of_canonical ?_ (map_norm_eq_self_iff ?_) ?_ ?_
  · intro as
    refine hread.mpr ⟨_, rfl, ?_⟩
    rw [List.forall₂_map_left_iff, List.forall₂_map_right_iff, List.forall₂_same]
    exact fun a _ => h.read_write a
  · intro a
    rw [← h.read_write_iff, h.read_write, Except.ok.injEq]
  · intro v as hv
    obtain ⟨items, rfl, hitems⟩ := hread.mp hv
    induction hitems with
    | nil => exact List.forall_mem_nil _
    | cons hitem hitems ih =>
        exact List.forall_mem_cons.mpr ⟨h.canonical_of_read hitem, ih (hread.mpr ⟨_, rfl, hitems⟩)⟩
  · intro v as hv
    obtain ⟨items, rfl, hitems⟩ := hread.mp hv
    simp only [Value.items, List.flatMap_map]
    induction hitems with
    | nil => rfl
    | cons hitem hitems ih =>
        rw [List.flatMap_cons, List.flatMap_cons, h.tags_kept _ _ hitem,
          ih (hread.mpr ⟨_, rfl, hitems⟩)]

end RoundTrip

theorem Mode.roundTrip : RoundTrip Mode.toValue Mode.read Mode.norm Mode.Canonical ([·]) := by
  refine .of_canonical ?_ Mode.norm_eq_self_iff ?_ ?_
  · intro m
    exact Mode.read_eq_ok_iff.mpr ⟨m.tag, rfl, m.ofTag_tag⟩
  · intro v m h
    obtain ⟨tag, rfl, rfl⟩ := Mode.read_eq_ok_iff.mp h
    exact Mode.canonical_ofTag tag
  · intro v m h
    obtain ⟨tag, rfl, rfl⟩ := Mode.read_eq_ok_iff.mp h
    rw [Mode.toValue, Mode.tag_ofTag]

theorem Action.roundTrip :
    RoundTrip Action.toValue Action.read Action.norm Action.Canonical ([·]) := by
  refine .of_canonical ?_ Action.norm_eq_self_iff ?_ ?_
  · intro a
    exact Action.read_eq_ok_iff.mpr ⟨a.word, rfl, a.ofWord_word⟩
  · intro v a h
    obtain ⟨word, rfl, rfl⟩ := Action.read_eq_ok_iff.mp h
    exact Action.canonical_ofWord word
  · intro v a h
    obtain ⟨word, rfl, rfl⟩ := Action.read_eq_ok_iff.mp h
    rw [Action.toValue, Action.word_ofWord]

namespace Match

/-- The slots of a match with what is written for them. -/
def slots (m : Match) : List (String × Option Value) :=
  [("mode", some m.mode.toValue),
    ("regex", if m.regex then some (.bool true) else none),
    ("channel_name", m.channelName.map .string),
    ("user_name", m.userName.map .string),
    ("user_id", m.userId.map natural),
    ("is_admin", m.isAdmin.map .bool),
    ("message_title", m.messageTitle.map .string),
    ("message_text", m.messageText.map .string),
    ("message_extra", m.messageExtra.map .string),
    ("priority", m.priority.map integer)]

theorem names_slots (m : Match) : m.slots.map (·.1) = clauses.map (·.name) := rfl

theorem toValue_eq_filled (m : Match) : m.toValue = .object (filled m.slots) := by
  cases hregex : m.regex <;>
    simp [toValue, filled, slots, optionalEntry_map, hregex]

theorem part?_toValue (m : Match) (name : String) :
    Clause.part? clauses name m.toValue = (m.slots.lookup name).join := by
  rw [toValue_eq_filled]
  exact lookup_filled (names_slots m ▸ regular_schema.names_nodup) name

/-- The parts of a document are what the match holds, slot by slot. A slot that holds an empty text
or a zero has a part, a slot that holds nothing has none. -/
structure Slotwise (v : Value) (m : Match) : Prop where
  mode : Clause.part? clauses "mode" v = some m.mode.toValue
  regex : Clause.part? clauses "regex" v = if m.regex then some (.bool true) else none
  channelName : Clause.part? clauses "channel_name" v = m.channelName.map .string
  userName : Clause.part? clauses "user_name" v = m.userName.map .string
  userId : Clause.part? clauses "user_id" v = m.userId.map natural
  isAdmin : Clause.part? clauses "is_admin" v = m.isAdmin.map .bool
  messageTitle : Clause.part? clauses "message_title" v = m.messageTitle.map .string
  messageText : Clause.part? clauses "message_text" v = m.messageText.map .string
  messageExtra : Clause.part? clauses "message_extra" v = m.messageExtra.map .string
  priority : Clause.part? clauses "priority" v = m.priority.map integer

theorem slotwise_toValue (m : Match) : Slotwise m.toValue m := by
  constructor <;> simp [part?_toValue, slots, List.lookup_cons]

theorem isDocument_toValue (m : Match) : IsDocument m.toValue := by
  have h := slotwise_toValue m
  refine isRecord_of_supplied regular_schema.names_nodup (toValue_eq_filled m)
    (names_filled_sublist m.slots) fun c hc => ?_
  simp only [clauses, List.mem_cons, List.not_mem_nil, or_false] at hc
  obtain rfl | rfl | rfl | rfl | rfl | rfl | rfl | rfl | rfl | rfl := hc
  · exact Clause.supplied_of_fits h.mode (isText_string _)
  · have hregex := h.regex
    split at hregex
    · exact Clause.supplied_of_fits hregex (isFlag_bool true)
    · rw [hregex]
      rfl
  · exact Clause.supplied_slot h.channelName isText_string
  · exact Clause.supplied_slot h.userName isText_string
  · exact Clause.supplied_slot h.userId isNatural_natural
  · exact Clause.supplied_slot h.isAdmin isFlag_bool
  · exact Clause.supplied_slot h.messageTitle isText_string
  · exact Clause.supplied_slot h.messageText isText_string
  · exact Clause.supplied_slot h.messageExtra isText_string
  · exact Clause.supplied_slot h.priority isInteger_integer

theorem given_regex_toValue (m : Match) :
    Given Flag (some false) (Clause.part? clauses "regex" m.toValue) m.regex := by
  rw [(slotwise_toValue m).regex]
  cases m.regex <;> rfl

theorem describes_toValue (m : Match) : Describes m.toValue m.norm where
  document := isDocument_toValue m
  mode := given_of_tells (slotwise_toValue m).mode ⟨m.mode.tag, rfl, m.mode.ofTag_tag⟩
  regex := given_regex_toValue m
  channelName := given_slot (slotwise_toValue m).channelName fun _ => rfl
  userName := given_slot (slotwise_toValue m).userName fun _ => rfl
  userId := given_slot (slotwise_toValue m).userId fun _ => rfl
  isAdmin := given_slot (slotwise_toValue m).isAdmin fun _ => rfl
  messageTitle := given_slot (slotwise_toValue m).messageTitle fun _ => rfl
  messageText := given_slot (slotwise_toValue m).messageText fun _ => rfl
  messageExtra := given_slot (slotwise_toValue m).messageExtra fun _ => rfl
  priority := given_slot (slotwise_toValue m).priority fun _ => rfl

/-- The tag in the document of a match. -/
def tagsIn (v : Value) : List Value := (Clause.part? clauses "mode" v).toList

theorem roundTrip : RoundTrip Match.toValue Match.read Match.norm Match.Canonical tagsIn := by
  have hmode {v : Value} {m : Match} (h : Match.read v = .ok m) :
      ∃ w, Clause.part? clauses "mode" v = some w ∧ Mode.read w = .ok m.mode := by
    obtain ⟨w, hpart, hw⟩ := (read_eq_ok_iff.mp h).mode.exists_part
    exact ⟨w, hpart, Mode.read_eq_ok_iff.mpr hw⟩
  refine .of_canonical ?_ Match.norm_eq_self_iff ?_ ?_
  · intro m
    exact read_eq_ok_iff.mpr (describes_toValue m)
  · intro v m h
    obtain ⟨w, _, hw⟩ := hmode h
    exact Mode.roundTrip.canonical_of_read hw
  · intro v m h
    obtain ⟨w, hpart, hw⟩ := hmode h
    rw [tagsIn, tagsIn, hpart, (slotwise_toValue m).mode]
    exact Mode.roundTrip.tags_kept w m.mode hw

theorem roundTrip_list : RoundTrip Match.listToValue Match.readAll (·.map Match.norm)
    (∀ m ∈ ·, m.Canonical) (·.items.flatMap tagsIn) :=
  roundTrip.list

end Match

namespace Rule

theorem part?_match_toValue (r : Rule) :
    Clause.part? clauses "match" r.toValue = some (Match.listToValue r.conditions) := rfl

theorem part?_action_toValue (r : Rule) :
    Clause.part? clauses "action" r.toValue = some r.action.toValue := rfl

theorem isDocument_toValue (r : Rule) : IsDocument r.toValue := by
  refine isRecord_of_supplied regular_schema.names_nodup rfl (.refl _) fun c hc => ?_
  simp only [clauses, List.mem_cons, List.not_mem_nil, or_false] at hc
  obtain rfl | rfl := hc
  · refine Clause.supplied_of_fits (part?_match_toValue r) ?_
    exact (listOf_succeeds_iff Match.read_succeeds_iff).mp
      ⟨_, Match.roundTrip_list.read_write r.conditions⟩
  · exact Clause.supplied_of_fits (part?_action_toValue r) (isText_string _)

theorem describes_toValue (r : Rule) : Describes r.toValue r.norm where
  document := isDocument_toValue r
  conditions := given_of_tells (part?_match_toValue r)
    (Match.readAll_eq_ok_iff.mp (Match.roundTrip_list.read_write r.conditions))
  action := given_of_tells (part?_action_toValue r)
    (Action.read_eq_ok_iff.mp (Action.roundTrip.read_write r.action))

/-- The tags in the document of a rule, and the word of its action. -/
def tagsIn (v : Value) : List Value :=
  (Clause.part? clauses "match" v).elim [] (·.items.flatMap Match.tagsIn) ++
    (Clause.part? clauses "action" v).toList

theorem roundTrip : RoundTrip Rule.toValue Rule.read Rule.norm Rule.Canonical tagsIn := by
  have hparts {v : Value} {r : Rule} (h : Rule.read v = .ok r) :
      (∃ w, Clause.part? clauses "match" v = some w ∧ Match.readAll w = .ok r.conditions) ∧
        ∃ w, Clause.part? clauses "action" v = some w ∧ Action.read w = .ok r.action := by
    obtain ⟨w, hmatch, hw⟩ := (read_eq_ok_iff.mp h).conditions.exists_part
    obtain ⟨w', haction, hw'⟩ := (read_eq_ok_iff.mp h).action.exists_part
    exact ⟨⟨w, hmatch, Match.readAll_eq_ok_iff.mpr hw⟩, w', haction, Action.read_eq_ok_iff.mpr hw'⟩
  refine .of_canonical ?_ Rule.norm_eq_self_iff ?_ ?_
  · intro r
    exact read_eq_ok_iff.mpr (describes_toValue r)
  · intro v r h
    obtain ⟨⟨_, _, hconditions⟩, _, _, haction⟩ := hparts h
    exact ⟨Match.roundTrip_list.canonical_of_read hconditions,
      Action.roundTrip.canonical_of_read haction⟩
  · intro v r h
    obtain ⟨⟨w, hmatch, hconditions⟩, w', haction, hword⟩ := hparts h
    have htags := Match.roundTrip_list.tags_kept w r.conditions hconditions
    have htext := Action.roundTrip.tags_kept w' r.action hword
    rw [tagsIn, tagsIn, part?_match_toValue, part?_action_toValue, hmatch, haction]
    exact congrArg₂ (· ++ ·) htags htext

end Rule

namespace Chain

/-- The tags and words in the document of a chain. -/
def tagsIn (v : Value) : List Value := v.items.flatMap Rule.tagsIn

theorem roundTrip : RoundTrip Chain.toValue Chain.read Chain.norm Chain.Canonical tagsIn := by
  have hrules := Rule.roundTrip.list
  refine .of_canonical ?_ Chain.norm_eq_self_iff ?_ ?_
  · intro c
    exact read_eq_ok_iff_rules.mpr (hrules.read_write c.rules)
  · intro v c h
    exact hrules.canonical_of_read (read_eq_ok_iff_rules.mp h)
  · intro v c h
    exact hrules.tags_kept v c.rules (read_eq_ok_iff_rules.mp h)

end Chain

namespace Channel

theorem describes_toValue (c : Channel) : Describes c.toValue c where
  document := by
    refine isRecord_of_supplied regular_schema.names_nodup rfl (.refl _) fun c hc => ?_
    simp only [clauses, List.mem_cons, List.not_mem_nil, or_false] at hc
    obtain rfl | rfl := hc
    · exact Clause.supplied_of_fits rfl (isText_string _)
    · exact Clause.supplied_of_fits rfl (isFlag_bool _)
  name := given_of_tells rfl rfl
  isPublic := given_of_tells rfl rfl

theorem roundTrip : RoundTrip Channel.toValue Channel.read id (fun _ => True) fun _ => [] :=
  .of_canonical (fun c => read_eq_ok_iff.mpr (describes_toValue c)) (by simp) (fun _ _ _ => trivial)
    fun _ _ _ => rfl

theorem read_list_toValue (cs : List Channel) :
    listOf Channel.read (Value.array (cs.map Channel.toValue)) = .ok cs := by
  simpa using roundTrip.list.read_write cs

end Channel

namespace Config

theorem part?_channels_toValue (c : Config) : Clause.part? clauses "channels" c.toValue =
    some (.array (c.channels.map Channel.toValue)) := rfl

theorem part?_senderFilter_toValue (c : Config) :
    Clause.part? clauses "sender_filter" c.toValue = some c.senderFilter.toValue := rfl

theorem part?_receiverFilter_toValue (c : Config) :
    Clause.part? clauses "receiver_filter" c.toValue = some c.receiverFilter.toValue := rfl

theorem isDocument_toValue (c : Config) : IsDocument c.toValue := by
  refine isRecord_of_supplied regular_schema.names_nodup rfl (.refl _) fun c' hc => ?_
  simp only [clauses, List.mem_cons, List.not_mem_nil, or_false] at hc
  obtain rfl | rfl | rfl := hc
  · refine Clause.supplied_of_fits (part?_channels_toValue c) ?_
    exact (listOf_succeeds_iff Channel.read_succeeds_iff).mp
      ⟨_, Channel.read_list_toValue c.channels⟩
  · refine Clause.supplied_of_fits (part?_senderFilter_toValue c) ?_
    exact Chain.read_succeeds_iff.mp ⟨_, Chain.roundTrip.read_write c.senderFilter⟩
  · refine Clause.supplied_of_fits (part?_receiverFilter_toValue c) ?_
    exact Chain.read_succeeds_iff.mp ⟨_, Chain.roundTrip.read_write c.receiverFilter⟩

theorem describes_toValue (c : Config) : Describes c.toValue c.norm where
  document := isDocument_toValue c
  channels := given_of_tells (part?_channels_toValue c)
    ((listOf_eq_ok_iff Channel.read_eq_ok_iff).mp (Channel.read_list_toValue c.channels))
  senderFilter := given_of_tells (part?_senderFilter_toValue c)
    (Chain.read_eq_ok_iff.mp (Chain.roundTrip.read_write c.senderFilter))
  receiverFilter := given_of_tells (part?_receiverFilter_toValue c)
    (Chain.read_eq_ok_iff.mp (Chain.roundTrip.read_write c.receiverFilter))

/-- The tags and words in the document of a configuration. -/
def tagsIn (v : Value) : List Value :=
  (Clause.part? clauses "sender_filter" v).elim [] Chain.tagsIn ++
    (Clause.part? clauses "receiver_filter" v).elim [] Chain.tagsIn

/-- A chain that is left out is canonical and has no tags. -/
theorem given_chain {part : Option Value} {c : Chain}
    (h : Given Chain.Describes (some ⟨[]⟩) part c) :
    c.Canonical ∧ Chain.tagsIn c.toValue = part.elim [] Chain.tagsIn := by
  cases part with
  | none =>
      cases h
      exact ⟨List.forall_mem_nil _, rfl⟩
  | some v =>
      have hread := Chain.read_eq_ok_iff.mpr h
      exact ⟨Chain.roundTrip.canonical_of_read hread, Chain.roundTrip.tags_kept v c hread⟩

theorem roundTrip : RoundTrip Config.toValue Config.read Config.norm Config.Canonical tagsIn := by
  refine .of_canonical ?_ Config.norm_eq_self_iff ?_ ?_
  · intro c
    exact read_eq_ok_iff.mpr (describes_toValue c)
  · intro v c h
    have hdescribes := read_eq_ok_iff.mp h
    exact ⟨(given_chain hdescribes.senderFilter).1, (given_chain hdescribes.receiverFilter).1⟩
  · intro v c h
    have hdescribes := read_eq_ok_iff.mp h
    have hsender := (given_chain hdescribes.senderFilter).2
    have hreceiver := (given_chain hdescribes.receiverFilter).2
    rw [tagsIn, tagsIn, ← hsender, ← hreceiver]
    rfl

end Config

namespace User

theorem describes_toValue (u : User) : Describes u.toValue u where
  document := by
    refine isRecord_of_supplied regular_schema.names_nodup rfl (.refl _) fun c hc => ?_
    simp only [clauses, List.mem_cons, List.not_mem_nil, or_false] at hc
    obtain rfl | rfl | rfl := hc
    · exact Clause.supplied_of_fits rfl (isNatural_natural _)
    · exact Clause.supplied_of_fits rfl (isText_string _)
    · exact Clause.supplied_of_fits rfl (isFlag_bool _)
  id := given_of_tells rfl rfl
  name := given_of_tells rfl rfl
  admin := given_of_tells rfl rfl

theorem read_toValue (u : User) : User.read u.toValue = .ok u :=
  read_eq_ok_iff.mpr (describes_toValue u)

end User

namespace Dictionary

theorem insertEntry_of_above {A : Type} {key : String} {value : A} {entries : List (String × A)}
    (h : ∀ e ∈ entries, e.1 < key) : insertEntry key value entries = entries ++ [(key, value)] := by
  induction entries with
  | nil => rfl
  | cons e entries ih =>
      obtain ⟨hfirst, hrest⟩ := List.forall_mem_cons.mp h
      rw [insertEntry, if_neg (String.lt_asymm hfirst), if_pos hfirst, ih hrest, List.cons_append]

/-- The entries of a dictionary, put into an empty one in their order, are the dictionary. -/
theorem ofList_entries {A : Type} (d : Dictionary A) : ofList d.entries = d := by
  have hfold (entries : List (String × A)) (start : Dictionary A)
      (h : Ascending (start.entries ++ entries)) :
      (entries.foldl (fun d e => d.insert e.1 e.2) start).entries = start.entries ++ entries := by
    induction entries generalizing start with
    | nil => simp
    | cons e entries ih =>
        have habove : ∀ other ∈ start.entries, other.1 < e.1 := fun other hother =>
          (List.pairwise_append.mp h).2.2 other hother e (List.mem_cons_self ..)
        have hinsert : (start.insert e.1 e.2).entries = start.entries ++ [e] :=
          insertEntry_of_above habove
        rw [List.foldl_cons, ih, hinsert, List.append_assoc, List.singleton_append]
        rwa [hinsert, List.append_assoc, List.singleton_append]
  exact ext (hfold d.entries empty d.ascending)

end Dictionary

namespace Message

theorem isDocument_toValue (m : Message) : IsDocument m.toValue := by
  refine isRecord_of_supplied regular_schema.names_nodup rfl (.refl _) fun c hc => ?_
  simp only [clauses, List.mem_cons, List.not_mem_nil, or_false] at hc
  obtain rfl | rfl | rfl | rfl | rfl | rfl | rfl | rfl := hc
  · exact Clause.supplied_of_fits rfl (User.describes_toValue m.sender).document
  · exact Clause.supplied_of_fits rfl (User.describes_toValue m.receiver).document
  · exact Clause.supplied_of_fits rfl (isText_string _)
  · exact Clause.supplied_of_fits rfl (isText_string _)
  · exact Clause.supplied_of_fits rfl ⟨m.extras.entries, rfl⟩
  · exact Clause.supplied_of_fits rfl (isInteger_integer _)
  · exact Clause.supplied_of_fits rfl (isText_string _)
  · exact Clause.supplied_of_fits rfl (isFlag_bool _)

theorem describes_toValue (m : Message) : Describes m.toValue m where
  document := isDocument_toValue m
  sender := given_of_tells rfl (User.describes_toValue m.sender)
  receiver := given_of_tells rfl (User.describes_toValue m.receiver)
  title := given_of_tells rfl rfl
  text := given_of_tells rfl rfl
  extras := given_of_tells rfl ⟨m.extras.entries, rfl, m.extras.ofList_entries⟩
  priority := given_of_tells rfl rfl
  channelName := given_of_tells rfl rfl
  outbound := given_of_tells rfl rfl

theorem read_toValue (m : Message) : Message.read m.toValue = .ok m :=
  read_eq_ok_iff.mpr (describes_toValue m)

end Message

/-- All that is written can be read back. Matches, rules, chains, channels and configurations come
back as their norms, and a slot of a match stays apart from an empty one; users and messages come
back as they were. -/
theorem documents_round_trip :
    RoundTrip Mode.toValue Mode.read Mode.norm Mode.Canonical ([·]) ∧
      RoundTrip Action.toValue Action.read Action.norm Action.Canonical ([·]) ∧
      RoundTrip Match.toValue Match.read Match.norm Match.Canonical Match.tagsIn ∧
      RoundTrip Match.listToValue Match.readAll (·.map Match.norm) (∀ m ∈ ·, m.Canonical)
        (·.items.flatMap Match.tagsIn) ∧
      RoundTrip Rule.toValue Rule.read Rule.norm Rule.Canonical Rule.tagsIn ∧
      RoundTrip Chain.toValue Chain.read Chain.norm Chain.Canonical Chain.tagsIn ∧
      RoundTrip Channel.toValue Channel.read id (fun _ => True) (fun _ => []) ∧
      RoundTrip Config.toValue Config.read Config.norm Config.Canonical Config.tagsIn ∧
      (∀ m : Match, Match.Slotwise m.toValue m) ∧
      (∀ u : User, User.read u.toValue = .ok u) ∧
      ∀ msg : Message, Message.read msg.toValue = .ok msg :=
  ⟨Mode.roundTrip, Action.roundTrip, Match.roundTrip, Match.roundTrip_list, Rule.roundTrip,
    Chain.roundTrip, Channel.roundTrip, Config.roundTrip, Match.slotwise_toValue,
    User.read_toValue, Message.read_toValue⟩

example : Match.read (Match.toValue { mode := .unknown "any", userId := some 0 }) =
    .ok { mode := .any, userId := some 0 } := by
  rfl

end BroadcastFilter
