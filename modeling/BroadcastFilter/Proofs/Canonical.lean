import BroadcastFilter.Config

/-!
Canonical values. A mode that is not known keeps its tag, and nothing keeps a program from putting
the tag of a known mode there; an action can hold a known word in the same way. No document says
such a value apart from the known one, so it is brought to its norm: the mode that its tag names and
the action that its word names. What is its own norm is canonical.
-/

namespace BroadcastFilter

namespace Mode

theorem tag_ofTag (tag : String) : (ofTag tag).tag = tag := by
  rw [ofTag]
  cases hfind : known.find? (·.tag == tag) with
  | none => rfl
  | some m => simpa using List.find?_some hfind

/-- The mode that the tag names. -/
def norm : Mode → Mode
  | .unknown tag => ofTag tag
  | m => m

/-- The mode is not a known tag in the guise of an unknown one. -/
def Canonical (m : Mode) : Prop := m.isKnown = true ∨ m.tag ∉ known.map tag

instance : DecidablePred Canonical := fun m =>
  inferInstanceAs (Decidable (m.isKnown = true ∨ m.tag ∉ known.map tag))

theorem ofTag_tag (m : Mode) : ofTag m.tag = m.norm := by
  cases m <;> rfl

theorem isKnown_of_mem_known {m : Mode} (h : m ∈ known) : m.isKnown = true := by
  revert m
  decide

theorem canonical_ofTag (tag : String) : (ofTag tag).Canonical := by
  rw [ofTag]
  cases hfind : known.find? (·.tag == tag) with
  | none =>
      right
      simpa [Mode.tag] using hfind
  | some m => exact .inl (isKnown_of_mem_known (List.mem_of_find?_eq_some hfind))

theorem norm_eq_self_iff {m : Mode} : m.norm = m ↔ m.Canonical := by
  constructor
  · intro h
    rw [← h, ← ofTag_tag]
    exact canonical_ofTag m.tag
  · intro h
    cases m with
    | unknown tag =>
        have htag : tag ∉ known.map Mode.tag := h.resolve_left Bool.false_ne_true
        have hnone : known.find? (·.tag == tag) = none := by
          refine List.find?_eq_none.mpr fun k hk hsame => htag ?_
          exact List.mem_map.mpr ⟨k, hk, eq_of_beq hsame⟩
        rw [norm, ofTag, hnone, Option.getD_none]
    | _ => rfl

end Mode

namespace Action

theorem word_ofWord (word : String) : (ofWord word).word = word := by
  unfold ofWord
  split
  next haccept => exact haccept.symm
  next =>
    split
    next hreject => exact hreject.symm
    next => rfl

/-- The action that the word names. -/
def norm : Action → Action
  | .unrecognized word => ofWord word
  | a => a

/-- The action is not a known word in the guise of an unknown one. -/
def Canonical (a : Action) : Prop := a.isRecognized = true ∨ a.word ≠ "accept" ∧ a.word ≠ "reject"

instance : DecidablePred Canonical := fun a =>
  inferInstanceAs (Decidable (a.isRecognized = true ∨ a.word ≠ "accept" ∧ a.word ≠ "reject"))

theorem ofWord_word (a : Action) : ofWord a.word = a.norm := by
  cases a <;> rfl

theorem canonical_ofWord (word : String) : (ofWord word).Canonical := by
  unfold ofWord
  split
  next => exact .inl rfl
  next haccept =>
    split
    next => exact .inl rfl
    next hreject => exact .inr ⟨haccept, hreject⟩

theorem norm_eq_self_iff {a : Action} : a.norm = a ↔ a.Canonical := by
  constructor
  · intro h
    rw [← h, ← ofWord_word]
    exact canonical_ofWord a.word
  · intro h
    cases a with
    | unrecognized word =>
        obtain ⟨haccept, hreject⟩ : word ≠ "accept" ∧ word ≠ "reject" :=
          h.resolve_left Bool.false_ne_true
        rw [norm, ofWord, if_neg haccept, if_neg hreject]
    | _ => rfl

end Action

theorem map_norm_eq_self_iff {A : Type} {norm : A → A} {Canonical : A → Prop}
    (hnorm : ∀ {a}, norm a = a ↔ Canonical a) {as : List A} :
    as.map norm = as ↔ ∀ a ∈ as, Canonical a := by
  induction as with
  | nil => simp
  | cons a as ih => simp [hnorm, ih]

def Match.norm (m : Match) : Match := { m with mode := m.mode.norm }

def Match.Canonical (m : Match) : Prop := m.mode.Canonical

instance : DecidablePred Match.Canonical := fun m =>
  inferInstanceAs (Decidable m.mode.Canonical)

theorem Match.norm_eq_self_iff {m : Match} : m.norm = m ↔ m.Canonical := by
  rw [Match.Canonical, ← Mode.norm_eq_self_iff]
  cases m
  simp [Match.norm]

def Rule.norm (r : Rule) : Rule := ⟨r.conditions.map Match.norm, r.action.norm⟩

def Rule.Canonical (r : Rule) : Prop := (∀ m ∈ r.conditions, m.Canonical) ∧ r.action.Canonical

instance : DecidablePred Rule.Canonical := fun r =>
  inferInstanceAs (Decidable ((∀ m ∈ r.conditions, m.Canonical) ∧ r.action.Canonical))

theorem Rule.norm_eq_self_iff {r : Rule} : r.norm = r ↔ r.Canonical := by
  rw [Rule.Canonical, ← map_norm_eq_self_iff Match.norm_eq_self_iff, ← Action.norm_eq_self_iff]
  cases r
  simp [Rule.norm]

def Chain.norm (c : Chain) : Chain := ⟨c.rules.map Rule.norm⟩

def Chain.Canonical (c : Chain) : Prop := ∀ r ∈ c.rules, r.Canonical

instance : DecidablePred Chain.Canonical := fun c =>
  inferInstanceAs (Decidable (∀ r ∈ c.rules, r.Canonical))

theorem Chain.norm_eq_self_iff {c : Chain} : c.norm = c ↔ c.Canonical := by
  rw [Chain.Canonical, ← map_norm_eq_self_iff Rule.norm_eq_self_iff]
  cases c
  simp [Chain.norm]

def Config.norm (c : Config) : Config :=
  { c with senderFilter := c.senderFilter.norm, receiverFilter := c.receiverFilter.norm }

/-- No mode and no action of the configuration is a known one in the guise of an unknown one. -/
def Config.Canonical (c : Config) : Prop := c.senderFilter.Canonical ∧ c.receiverFilter.Canonical

instance : DecidablePred Config.Canonical := fun c =>
  inferInstanceAs (Decidable (c.senderFilter.Canonical ∧ c.receiverFilter.Canonical))

theorem Config.norm_eq_self_iff {c : Config} : c.norm = c ↔ c.Canonical := by
  rw [Config.Canonical, ← Chain.norm_eq_self_iff, ← Chain.norm_eq_self_iff]
  cases c
  simp [Config.norm]

example : Config.starter.Canonical := by
  decide

end BroadcastFilter
