import BroadcastFilter.Proofs.Delivery
import Mathlib.Data.List.Sort

/-!
Verdicts of the checks that stop at the first fault. The check of a match asks for a known mode, then
for the slot of that mode, then for the other slots to be empty. The check of a configuration asks
for a sender filter and then for a receiver filter that pass their own checks, and then for channels
with distinct names. The verdicts are said here without the checks: there is one for every match and
every configuration, and it is what the check returns.
-/

namespace BroadcastFilter

namespace Slot

/-- One slot is declared before another. -/
def Before (s t : Slot) : Prop := s.ctorIdx < t.ctorIdx

instance : Std.Irrefl Before := ⟨fun _ => Nat.lt_irrefl _⟩

instance : Std.Antisymm Before := ⟨fun _ _ h h' => absurd h' (Nat.lt_asymm h)⟩

/-- The list names the slots of one kind, each once and in the order in which they are declared. -/
structure Lists (kind : Slot → Prop) (slots : List Slot) : Prop where
  mem_iff : ∀ s, s ∈ slots ↔ kind s
  ordered : slots.Pairwise Before

theorem Lists.unique {kind : Slot → Prop} {slots others : List Slot} (h : Lists kind slots)
    (h' : Lists kind others) : slots = others := by
  apply h.ordered.eq_of_mem_iff h'.ordered
  intro s
  rw [h.mem_iff, h'.mem_iff]

theorem pairwise_before_all : all.Pairwise Before := by
  unfold Before
  decide

end Slot

theorem Mode.exists_eq_unknown {mode : Mode} (h : ¬ mode.isKnown = true) :
    ∃ tag, mode = .unknown tag := by
  cases mode with
  | unknown tag => exact ⟨tag, rfl⟩
  | _ => exact absurd rfl h

theorem Mode.isKnown_of_slot? {mode : Mode} {s : Slot} (h : mode.slot? = some s) :
    mode.isKnown = true := by
  cases mode with
  | unknown tag => cases h
  | _ => rfl

namespace Match

/-- The slot holds something that counts: a text that is not empty, an id that is not zero, or any
flag or priority. -/
def Fills (m : Match) : Slot → Prop
  | .channelName => ∃ text, m.channelName = some text ∧ text ≠ ""
  | .userName => ∃ text, m.userName = some text ∧ text ≠ ""
  | .userId => ∃ id, m.userId = some id ∧ id ≠ 0
  | .isAdmin => ∃ admin, m.isAdmin = some admin
  | .messageTitle => ∃ text, m.messageTitle = some text ∧ text ≠ ""
  | .messageText => ∃ text, m.messageText = some text ∧ text ≠ ""
  | .messageExtra => ∃ text, m.messageExtra = some text ∧ text ≠ ""
  | .priority => ∃ value, m.priority = some value

theorem has_iff_fills {m : Match} {s : Slot} : m.has s = true ↔ m.Fills s := by
  cases s with
  | userId => simp [has, Fills, Option.any_eq_true]
  | isAdmin => exact Option.isSome_iff_exists
  | priority => exact Option.isSome_iff_exists
  | _ => exact isSome_nonempty_iff

/-- The verdict on a match. An unknown mode comes before a slot that is missing, and that before
slots that hold something although the mode does not look at them. -/
inductive Verdict (m : Match) : Except Fault Unit → Prop where
  | unsupported {tag : String} (hmode : m.mode = .unknown tag) :
      Verdict m (.error (.unsupported tag))
  | missing {s : Slot} (hslot : m.mode.slot? = some s) (hempty : ¬ m.Fills s) :
      Verdict m (.error (.missing s))
  | extra {slots : List Slot} (hknown : m.mode.isKnown = true)
      (hfilled : ∀ s, m.mode.slot? = some s → m.Fills s)
      (hslots : Slot.Lists (fun s => m.Fills s ∧ m.mode.slot? ≠ some s) slots)
      (hsome : slots ≠ []) : Verdict m (.error (.extra slots))
  | ok (hknown : m.mode.isKnown = true) (hfills : ∀ s, m.Fills s ↔ m.mode.slot? = some s) :
      Verdict m (.ok ())

theorem lists_extras (m : Match) :
    Slot.Lists (fun s => m.Fills s ∧ m.mode.slot? ≠ some s) m.extras where
  mem_iff s := by
    rw [mem_extras, has_iff_fills]
  ordered := (Slot.pairwise_before_all.filter _).filter _

theorem check_of_unknown {m : Match} {tag : String} (hmode : m.mode = .unknown tag) :
    m.check = .error (.unsupported tag) := by
  simp [check, hmode, Mode.isKnown, Mode.tag]

theorem check_of_missing {m : Match} {s : Slot} (hslot : m.mode.slot? = some s)
    (hempty : ¬ m.Fills s) : m.check = .error (.missing s) := by
  have hhas : m.has s = false := by
    rw [← Bool.not_eq_true, has_iff_fills]
    exact hempty
  simp [check, Mode.isKnown_of_slot? hslot, hslot, Option.filter, hhas]

theorem check_of_filled {m : Match} (hknown : m.mode.isKnown = true)
    (hfilled : ∀ s, m.mode.slot? = some s → m.Fills s) :
    m.check = if m.extras = [] then .ok () else .error (.extra m.extras) := by
  have hmissing : m.mode.slot?.filter (fun s => !m.has s) = none := by
    rw [Option.filter_eq_none_iff]
    intro s hs
    simp [has_iff_fills.mpr (hfilled s hs)]
  simp [check, hknown, hmissing]

/-- Whatever its slots hold, there is a verdict on a match. -/
theorem exists_verdict (m : Match) : ∃ v, m.Verdict v := by
  by_cases hknown : m.mode.isKnown = true
  · by_cases hfilled : ∀ s, m.mode.slot? = some s → m.Fills s
    · by_cases hnone : m.extras = []
      · refine ⟨_, .ok hknown fun s => ⟨fun hs => ?_, hfilled s⟩⟩
        exact extras_eq_nil_iff.mp hnone s (has_iff_fills.mpr hs)
      · exact ⟨_, .extra hknown hfilled m.lists_extras hnone⟩
    · push Not at hfilled
      obtain ⟨s, hslot, hempty⟩ := hfilled
      exact ⟨_, .missing hslot hempty⟩
  · obtain ⟨tag, hmode⟩ := Mode.exists_eq_unknown hknown
    exact ⟨_, .unsupported hmode⟩

theorem Verdict.check_eq {m : Match} {v : Except Fault Unit} (h : m.Verdict v) : m.check = v := by
  cases h with
  | unsupported hmode => exact check_of_unknown hmode
  | missing hslot hempty => exact check_of_missing hslot hempty
  | extra hknown hfilled hslots hsome =>
      rw [check_of_filled hknown hfilled, m.lists_extras.unique hslots, if_neg hsome]
  | ok hknown hfills =>
      have hnone : m.extras = [] :=
        extras_eq_nil_iff.mpr fun s hs => (hfills s).mp (has_iff_fills.mp hs)
      rw [check_of_filled hknown fun s => (hfills s).mpr, if_pos hnone]

theorem check_eq_iff_verdict {m : Match} {v : Except Fault Unit} : m.check = v ↔ m.Verdict v := by
  constructor
  · rintro rfl
    obtain ⟨v, hv⟩ := m.exists_verdict
    rw [hv.check_eq]
    exact hv
  · exact Verdict.check_eq

/-- The check looks at the mode and at which slots hold something, and at nothing else. -/
theorem check_congr {m other : Match} (hmode : other.mode = m.mode)
    (hfills : ∀ s, other.Fills s ↔ m.Fills s) : other.check = m.check := by
  have hhas : other.has = m.has := by
    funext s
    rw [Bool.eq_iff_iff, has_iff_fills, has_iff_fills]
    exact hfills s
  unfold check extras present
  rw [hmode, hhas]

/-- The match with those slots emptied that hold an empty text or the id zero. -/
def tidy (m : Match) : Match :=
  { m with
    channelName := nonempty m.channelName
    userName := nonempty m.userName
    userId := m.userId.filter (· ≠ 0)
    messageTitle := nonempty m.messageTitle
    messageText := nonempty m.messageText
    messageExtra := nonempty m.messageExtra }

theorem fills_tidy (m : Match) (s : Slot) : m.tidy.Fills s ↔ m.Fills s := by
  have htext (held : Option String) :
      (∃ text, nonempty held = some text ∧ text ≠ "") ↔ ∃ text, held = some text ∧ text ≠ "" := by
    simp [nonempty, Option.filter_eq_some_iff]
  cases s with
  | userId => simp [tidy, Fills, Option.filter_eq_some_iff]
  | isAdmin => rfl
  | priority => rfl
  | _ => exact htext _

/-- The check of a match returns its verdict. So it passes exactly if the mode is known and the slots
that hold something are the slot of the mode and no other; and it makes no difference to it whether
texts are expressions, which texts, ids, flags and priorities the slots hold, or whether a slot holds
an empty text, the id zero or nothing. -/
theorem check_names_offenders (m : Match) :
    (∀ v, m.check = v ↔ m.Verdict v) ∧
    (m.check = .ok () ↔
      m.mode.isKnown = true ∧ ∀ s, m.Fills s ↔ m.mode.slot? = some s) ∧
    (∀ regex, ({ m with regex } : Match).check = m.check) ∧
    m.tidy.check = m.check ∧
    ∀ other : Match, other.mode = m.mode → (∀ s, other.Fills s ↔ m.Fills s) →
      other.check = m.check := by
  refine ⟨?_, ?_, ?_, ?_, ?_⟩
  · intro v
    exact check_eq_iff_verdict
  · rw [check_eq_iff_verdict]
    constructor
    · intro h
      cases h with
      | ok hknown hfills => exact ⟨hknown, hfills⟩
    · rintro ⟨hknown, hfills⟩
      exact .ok hknown hfills
  · intro regex
    exact check_congr rfl fun s => by cases s <;> rfl
  · exact check_congr rfl m.fills_tidy
  · intro other hmode hfills
    exact check_congr hmode hfills

/-- A match for an id that holds two more things, and an empty text, which does not count. -/
def crowded : Match where
  mode := .userId
  userId := some 7
  channelName := some ""
  isAdmin := some false
  priority := some 0

/-- The flag that is not set and the priority zero are too much. They still are when the match asks
for expressions, has no text in place of the empty one and looks for another id. -/
theorem check_names_offenders_crowded :
    crowded.check = .error (.extra [.isAdmin, .priority]) ∧
      ({ crowded with regex := true, channelName := none, userId := some 8 } : Match).check =
        crowded.check := by
  obtain ⟨hverdict, _, _, _, hcongr⟩ := check_names_offenders crowded
  have hfills (s : Slot) : ({ crowded with
      regex := true, channelName := none, userId := some 8 } : Match).Fills s ↔
        crowded.Fills s := by
    cases s <;> simp [Fills, crowded]
  refine ⟨(hverdict _).mpr (.extra rfl ?_ ⟨?_, ?_⟩ ?_), hcongr _ rfl hfills⟩
  · rintro s ⟨⟩
    exact ⟨7, rfl, by decide⟩
  · intro s
    cases s <;> simp [Fills, crowded, Mode.slot?]
  · exact List.pairwise_pair.mpr (by unfold Slot.Before; decide)
  · decide

end Match

namespace Config

/-- The name at a place of a list stands earlier in the list too. -/
def Repeats (names : List String) (k : Nat) : Prop :=
  ∃ name, names[k]? = some name ∧ ∃ i < k, names[i]? = some name

/-- The place is the least at which a name of the list is repeated, and this is the name. -/
structure FirstRepeat (names : List String) (k : Nat) (name : String) : Prop where
  place : names[k]? = some name
  repeats : Repeats names k
  least : ∀ j < k, ¬ Repeats names j

theorem FirstRepeat.unique {names : List String} {k l : Nat} {name other : String}
    (h : FirstRepeat names k name) (h' : FirstRepeat names l other) : name = other := by
  have hplace : k = l := by
    rcases Nat.lt_trichotomy k l with hlt | heq | hlt
    · exact absurd h.repeats (h'.least k hlt)
    · exact heq
    · exact absurd h'.repeats (h.least l hlt)
  subst hplace
  exact Option.some.inj (h.place.symm.trans h'.place)

theorem nodup_iff_not_repeats {names : List String} :
    names.Nodup ↔ ∀ k, ¬ Repeats names k := by
  rw [List.nodup_iff_getElem?_ne_getElem?]
  constructor
  · rintro h k ⟨name, hk, i, hi, hname⟩
    obtain ⟨hlength, _⟩ := List.getElem?_eq_some_iff.mp hk
    exact h i k hi hlength (hname.trans hk.symm)
  · intro h i k hi hlength heq
    have hk : names[k]? = some names[k] := List.getElem?_eq_getElem hlength
    exact h k ⟨names[k], hk, i, hi, heq.trans hk⟩

theorem repeats_append_length {names rest : List String} {name : String} :
    Repeats (names ++ name :: rest) names.length ↔ name ∈ names := by
  have hplace : (names ++ name :: rest)[names.length]? = some name := by
    simp
  constructor
  · rintro ⟨other, hother, i, hi, heq⟩
    rw [hplace] at hother
    rw [List.getElem?_append_left hi, ← hother] at heq
    exact List.mem_of_getElem? heq
  · intro hmem
    obtain ⟨i, hi⟩ := List.getElem?_of_mem hmem
    obtain ⟨hlt, _⟩ := List.getElem?_eq_some_iff.mp hi
    exact ⟨name, hplace, i, hlt, by rw [List.getElem?_append_left hlt, hi]⟩

/-- What the search for a repeated name finds in a list of which it has gone through a first part
without a repeat. -/
def Found (names : List String) : Option String → Prop
  | some name => ∃ k, FirstRepeat names k name
  | none => ∀ k, ¬ Repeats names k

/-- The names that have been seen are those of the part gone through, so one more step of the search
either ends it at the first place behind that part or moves this place on. -/
theorem found_firstRepeated {seen done : List String} (rest : List String)
    (hseen : ∀ name, name ∈ seen ↔ name ∈ done)
    (hdone : ∀ k < done.length, ¬ Repeats (done ++ rest) k) :
    Found (done ++ rest) (firstRepeated seen rest) := by
  induction rest generalizing seen done with
  | nil =>
      rintro k ⟨name, hk, hrepeats⟩
      obtain ⟨hlt, _⟩ := List.getElem?_eq_some_iff.mp hk
      exact hdone k (by simpa using hlt) ⟨name, hk, hrepeats⟩
  | cons name rest ih =>
      unfold firstRepeated
      split
      next hmem =>
        have hrepeats : Repeats (done ++ name :: rest) done.length := by
          rw [repeats_append_length, ← hseen]
          simpa using hmem
        exact ⟨done.length, by simp, hrepeats, hdone⟩
      next hnew =>
        have hplace : ¬ Repeats (done ++ name :: rest) done.length := by
          rw [repeats_append_length, ← hseen]
          simpa using hnew
        have hwhole : done ++ name :: rest = (done ++ [name]) ++ rest := by
          simp
        rw [hwhole] at hdone hplace ⊢
        apply ih
        · intro other
          simp [hseen, or_comm]
        · intro k hk
          rcases Nat.lt_or_eq_of_le (Nat.lt_succ_iff.mp (by simpa using hk)) with hlt | rfl
          · exact hdone k hlt
          · exact hplace

theorem found_search (names : List String) : Found names (firstRepeated [] names) := by
  have hnone : ∀ k < ([] : List String).length, ¬ Repeats ([] ++ names) k := nofun
  exact found_firstRepeated names (fun _ => Iff.rfl) hnone

/-- The search comes to the first name that is repeated. -/
theorem firstRepeated_eq_some_iff {names : List String} {name : String} :
    firstRepeated [] names = some name ↔ ∃ k, FirstRepeat names k name := by
  have hfound := found_search names
  cases hsearch : firstRepeated [] names with
  | none =>
      rw [hsearch] at hfound
      constructor
      · rintro ⟨⟩
      · rintro ⟨k, h⟩
        exact absurd h.repeats (hfound k)
  | some other =>
      rw [hsearch] at hfound
      obtain ⟨l, hother⟩ := hfound
      constructor
      · rintro ⟨⟩
        exact ⟨l, hother⟩
      · rintro ⟨k, h⟩
        rw [hother.unique h]

theorem firstRepeated_eq_none_iff {names : List String} :
    firstRepeated [] names = none ↔ names.Nodup := by
  have hfound := found_search names
  rw [nodup_iff_not_repeats]
  cases hsearch : firstRepeated [] names with
  | none =>
      rw [hsearch] at hfound
      exact iff_of_true rfl hfound
  | some other =>
      rw [hsearch] at hfound
      obtain ⟨l, hother⟩ := hfound
      exact iff_of_false nofun fun h => h l hother.repeats

/-- The names of the channels, in order. -/
def names (c : Config) : List String := c.channels.map (·.name)

/-- The verdict on a configuration. Faults of the sender filter come before those of the receiver
filter, and those before channels that share a name. -/
inductive Verdict (c : Config) : Except Error Unit → Prop where
  | sender {faults : ChainFaults} (hsender : c.senderFilter.check = .error faults) :
      Verdict c (.error (.senderFilter faults))
  | receiver {faults : ChainFaults} (hsender : c.senderFilter.check = .ok ())
      (hreceiver : c.receiverFilter.check = .error faults) :
      Verdict c (.error (.receiverFilter faults))
  | duplicate {k : Nat} {name : String} (hsender : c.senderFilter.check = .ok ())
      (hreceiver : c.receiverFilter.check = .ok ()) (hname : FirstRepeat c.names k name) :
      Verdict c (.error (.duplicateChannel name))
  | ok (hsender : c.senderFilter.check = .ok ()) (hreceiver : c.receiverFilter.check = .ok ())
      (hnames : c.names.Nodup) : Verdict c (.ok ())

theorem check_of_filters {c : Config} (hsender : c.senderFilter.check = .ok ())
    (hreceiver : c.receiverFilter.check = .ok ()) :
    c.check = match firstRepeated [] c.names with
      | some name => .error (.duplicateChannel name)
      | none => .ok () := by
  simp only [check, hsender, hreceiver, mapError, bind, Except.bind]
  rfl

/-- Whatever is wrong with a configuration, there is a verdict on it. -/
theorem exists_verdict (c : Config) : ∃ v, c.Verdict v := by
  cases hsender : c.senderFilter.check with
  | error faults => exact ⟨_, .sender hsender⟩
  | ok _ =>
      cases hreceiver : c.receiverFilter.check with
      | error faults => exact ⟨_, .receiver hsender hreceiver⟩
      | ok _ =>
          cases hsearch : firstRepeated [] c.names with
          | some name =>
              obtain ⟨k, hname⟩ := firstRepeated_eq_some_iff.mp hsearch
              exact ⟨_, .duplicate hsender hreceiver hname⟩
          | none => exact ⟨_, .ok hsender hreceiver (firstRepeated_eq_none_iff.mp hsearch)⟩

theorem Verdict.check_eq {c : Config} {v : Except Error Unit} (h : c.Verdict v) : c.check = v := by
  cases h with
  | sender hsender => simp [check, hsender, mapError, bind, Except.bind]
  | receiver hsender hreceiver => simp [check, hsender, hreceiver, mapError, bind, Except.bind]
  | duplicate hsender hreceiver hname =>
      rw [check_of_filters hsender hreceiver, firstRepeated_eq_some_iff.mpr ⟨_, hname⟩]
  | ok hsender hreceiver hnames =>
      rw [check_of_filters hsender hreceiver, firstRepeated_eq_none_iff.mpr hnames]

theorem validate_eq_iff_verdict {c : Config} {v : Except Error Unit} :
    c.validate.value = v ↔ c.Verdict v := by
  rw [value_validate]
  constructor
  · rintro rfl
    obtain ⟨v, hv⟩ := c.exists_verdict
    rw [hv.check_eq]
    exact hv
  · exact Verdict.check_eq

theorem validate_eq_ok_iff {c : Config} :
    c.validate.value = .ok () ↔ c.senderFilter.check = .ok () ∧ c.receiverFilter.check = .ok () ∧
      c.names.Nodup := by
  rw [validate_eq_iff_verdict]
  constructor
  · intro h
    cases h with
    | ok hsender hreceiver hnames => exact ⟨hsender, hreceiver, hnames⟩
  · rintro ⟨hsender, hreceiver, hnames⟩
    exact .ok hsender hreceiver hnames

/-- A configuration is checked with its verdict. So it passes exactly if both filters do and no two
channels share a name; and that stays so when the channels are reordered and shown to others or
hidden from them. Without reordering, the whole verdict stays. -/
theorem validate_finds_first (c : Config) :
    (∀ v, c.validate.value = v ↔ c.Verdict v) ∧
    (c.validate.value = .ok () ↔ c.senderFilter.check = .ok () ∧ c.receiverFilter.check = .ok () ∧
      c.names.Nodup) ∧
    (∀ channels : List Channel, (channels.map (·.name)).Perm c.names →
      (({ c with channels } : Config).validate.value = .ok () ↔ c.validate.value = .ok ())) ∧
    ∀ channels : List Channel, channels.map (·.name) = c.names →
      ({ c with channels } : Config).validate.value = c.validate.value := by
  refine ⟨?_, ?_, ?_, ?_⟩
  · intro v
    exact validate_eq_iff_verdict
  · exact validate_eq_ok_iff
  · intro channels hperm
    have hnames : ({ c with channels } : Config).names.Nodup ↔ c.names.Nodup := hperm.nodup_iff
    rw [validate_eq_ok_iff, validate_eq_ok_iff, hnames]
  · intro channels hsame
    have hcheck : ({ c with channels } : Config).check = c.check := by
      simp only [check]
      rw [hsame]
      rfl
    rw [value_validate, value_validate, hcheck]

/-- Two names come twice, the second of them again before the first. -/
def interleaved : Config where
  channels := ["news", "ops", "ads", "ops", "news"].map (⟨·, false⟩)

/-- The name that comes again first is told, also when others may see the channels. In reverse order
the channels are not accepted either. -/
theorem validate_finds_first_interleaved :
    interleaved.validate.value = .error (.duplicateChannel "ops") ∧
      ({ channels := interleaved.names.map (⟨·, true⟩) } : Config).validate.value =
        .error (.duplicateChannel "ops") ∧
      ({ channels := interleaved.channels.reverse } : Config).validate.value ≠ .ok () := by
  obtain ⟨hverdict, _, hreordered, hshown⟩ := validate_finds_first interleaved
  have hops : interleaved.validate.value = .error (.duplicateChannel "ops") := by
    have hrepeats : Repeats interleaved.names 3 := ⟨"ops", rfl, 1, by decide, rfl⟩
    have hleast (j : Nat) (hj : j < 3) : ¬ Repeats interleaved.names j := by
      have hdistinct : (interleaved.names.take 3).Nodup := by decide
      rintro ⟨name, hname, i, hi, heq⟩
      have hsame : (interleaved.names.take 3)[i]? = (interleaved.names.take 3)[j]? := by
        rw [List.getElem?_take_of_lt (by omega), List.getElem?_take_of_lt hj, heq, hname]
      exact List.nodup_iff_getElem?_ne_getElem?.mp hdistinct i j hi hj hsame
    exact (hverdict _).mpr (.duplicate rfl rfl ⟨rfl, hrepeats, hleast⟩)
  refine ⟨hops, ?_, ?_⟩
  · rw [← hops]
    exact hshown _ (by decide)
  · have hperm : (interleaved.channels.reverse.map (·.name)).Perm interleaved.names := by decide
    intro hok
    have hsame := (hreordered _ hperm).mp hok
    rw [hops] at hsame
    cases hsame

end Config

end BroadcastFilter
