import BroadcastFilter.Proofs.Decision
import BroadcastFilter.Proofs.Readable
import Mathlib.Data.List.Basic

/-!
What the text of a condition tells. It opens with the words of its mode, which are the beginning of
no other mode's, and goes on with what the mode compares with. A pattern stands there as it was
written, with nothing escaped: a text and an expression are told apart by the first mark around
them, and an expression that compiles from one that does not by the last. So conditions with one
text put every message to the same test.
-/

namespace BroadcastFilter

/-- The slot holds a text. -/
def Slot.isText : Slot → Bool
  | .channelName | .userName | .messageTitle | .messageText | .messageExtra => true
  | .userId | .isAdmin | .priority => false

namespace Match

/-- The matches hold the same in a slot. -/
def AgreesIn (a b : Match) : Slot → Prop
  | .channelName => a.channelName = b.channelName
  | .userName => a.userName = b.userName
  | .userId => a.userId = b.userId
  | .isAdmin => a.isAdmin = b.isAdmin
  | .messageTitle => a.messageTitle = b.messageTitle
  | .messageText => a.messageText = b.messageText
  | .messageExtra => a.messageExtra = b.messageExtra
  | .priority => a.priority = b.priority

/-- The matches put messages to the same test: their mode is the same, so is what they hold in its
slot, and if that is a text then both or neither take it for an expression. -/
structure SameTest (a b : Match) : Prop where
  mode : a.mode = b.mode
  slot : ∀ s, a.mode.slot? = some s → a.AgreesIn b s
  regex : ∀ s, a.mode.slot? = some s → s.isText = true → a.regex = b.regex

variable {a b : Match}

/-- Nothing but the mode, its slot and the mark of expressions has a part in the outcome. -/
theorem SameTest.holds_eq (h : a.SameTest b) (search : Search) (msg : Message) :
    a.holds search msg = b.holds search msg := by
  obtain ⟨hmode, hslot, hregex⟩ := h
  unfold holds matchesText
  rw [← hmode]
  generalize a.mode = mode at hslot hregex
  cases mode with
  | any => rfl
  | channelName =>
      have hsame : a.channelName = b.channelName := hslot .channelName rfl
      simp only [hsame, hregex .channelName rfl rfl]
  | userName =>
      have hsame : a.userName = b.userName := hslot .userName rfl
      simp only [hsame, hregex .userName rfl rfl]
  | userId =>
      have hsame : a.userId = b.userId := hslot .userId rfl
      simp only [hsame]
  | isAdmin =>
      have hsame : a.isAdmin = b.isAdmin := hslot .isAdmin rfl
      simp only [hsame]
  | messageTitle =>
      have hsame : a.messageTitle = b.messageTitle := hslot .messageTitle rfl
      simp only [hsame, hregex .messageTitle rfl rfl]
  | messageText =>
      have hsame : a.messageText = b.messageText := hslot .messageText rfl
      simp only [hsame, hregex .messageText rfl rfl]
  | messageExtra =>
      have hsame : a.messageExtra = b.messageExtra := hslot .messageExtra rfl
      simp only [hsame, hregex .messageExtra rfl rfl]
  | priority =>
      have hsame : a.priority = b.priority := hslot .priority rfl
      simp only [hsame]
  | priorityAbove =>
      have hsame : a.priority = b.priority := hslot .priority rfl
      simp only [hsame]
  | priorityBelow =>
      have hsame : a.priority = b.priority := hslot .priority rfl
      simp only [hsame]
  | unknown tag => rfl

end Match

/-- The words with which the text of a condition in the mode begins. -/
def Mode.words : Mode → String
  | .any => "any"
  | .channelName => "channel_name "
  | .userName => "user_name "
  | .userId => "user_id "
  | .isAdmin => "is_admin "
  | .messageTitle => "message_title "
  | .messageText => "message_text "
  | .messageExtra => "message_extra "
  | .priority => "priority == "
  | .priorityAbove => "priority > "
  | .priorityBelow => "priority < "
  | .unknown tag => tag

theorem Mode.eq_of_words_le : ∀ m ∈ known, ∀ n ∈ known,
    m.words.toList <+: n.words.toList → m = n := by
  decide +kernel

/-- Whatever follows the words of two modes, one text has the words of one mode. -/
theorem Mode.eq_of_words_append {m n : Mode} (hm : m ∈ known) (hn : n ∈ known) {s t : String}
    (h : m.words ++ s = n.words ++ t) : m = n ∧ s = t := by
  have hchars : m.words.toList ++ s.toList = n.words.toList ++ t.toList := by
    rw [← String.toList_append, h, String.toList_append]
  have hsame : m = n := by
    have hother : n.words.toList <+: m.words.toList ++ s.toList :=
      hchars ▸ List.prefix_append _ t.toList
    rcases List.prefix_or_prefix_of_prefix (List.prefix_append _ s.toList) hother with hle | hle
    · exact eq_of_words_le m hm n hn hle
    · exact (eq_of_words_le n hn m hm hle).symm
  subst hsame
  exact ⟨rfl, String.toList_inj.mp (List.append_cancel_left hchars)⟩

theorem Condition.mode_mem_known (c : Condition) : c.mode ∈ Mode.known := by
  cases c <;> simp [mode, Mode.known]

/-- How the text of an expression ends. -/
def Pattern.closing (compiles : Bool) : String := if compiles then "/" else "/ (invalid)"

theorem Pattern.toText_ofText (search : Search) (regex : Bool) (text : String) :
    (ofText search regex text).value.toText =
      if regex then "/" ++ (text ++ closing (search text).isSome) else "\"" ++ (text ++ "\"") := by
  unfold ofText closing
  cases regex with
  | false => simp [toText, String.append_assoc]
  | true => cases search text <;> simp [toText, String.append_assoc]

/-- The first mark tells a text from an expression, and the last one whether that compiles; what
stands between them is the pattern, even if it has such marks itself. -/
theorem Pattern.toText_ofText_eq_iff (search : Search) {regex regex' : Bool}
    {text text' : String} :
    (ofText search regex text).value.toText = (ofText search regex' text').value.toText ↔
      regex = regex' ∧ text = text' := by
  refine ⟨fun h => ?_, fun ⟨hregex, htext⟩ => by rw [hregex, htext]⟩
  rw [toText_ofText, toText_ofText] at h
  have hmarks (s t : String) : "/" ++ s ≠ "\"" ++ t := by
    intro heq
    simpa using congrArg (fun u => u.toList.head?) heq
  cases regex with
  | false =>
      cases regex' with
      | false => exact ⟨rfl, by simpa [String.append_right_inj, String.append_left_inj] using h⟩
      | true => exact absurd h.symm (hmarks _ _)
  | true =>
      cases regex' with
      | false => exact absurd h (hmarks _ _)
      | true =>
          have hend := congrArg String.toList ((String.append_right_inj "/").mp h)
          rw [String.toList_append, String.toList_append] at hend
          obtain ⟨htext, _⟩ := Readable.flagAtEnd (fun b => (closing b).toList) (by decide) hend
          exact ⟨rfl, String.toList_inj.mp htext⟩

namespace Match

/-- What the text of a condition says of a slot of its match. -/
def shownIn (search : Search) (m : Match) : Slot → String
  | .userId => m.userId.elim "" fun id => toString id.toNat
  | .isAdmin => m.isAdmin.elim "" fun admin => if admin then "true" else "false"
  | .priority => m.priority.elim "" fun value => toString value.toInt
  | s => (m.text? s).elim "" fun text => (Pattern.ofText search m.regex text).value.toText

/-- What the text of a condition says of its match besides the mode. -/
def shown (search : Search) (m : Match) : String := m.mode.slot?.elim "" (m.shownIn search)

variable {a b : Match} {s : Slot}

theorem agreesIn_iff_text? (hs : s.isText = true) : a.AgreesIn b s ↔ a.text? s = b.text? s := by
  cases s <;> first | exact Iff.rfl | cases hs

theorem exists_text? {m : Match} (hs : s.isText = true) (hhas : m.has s = true) :
    ∃ text, m.text? s = some text := by
  have hsome {slot : Option String} (h : (nonempty slot).isSome = true) :
      ∃ text, slot = some text := by
    obtain ⟨text, htext, _⟩ := isSome_nonempty_iff.mp h
    exact ⟨text, htext⟩
  cases s <;> first | exact hsome hhas | cases hs

theorem shownIn_text (search : Search) (m : Match) (hs : s.isText = true) :
    m.shownIn search s =
      (m.text? s).elim "" fun text => (Pattern.ofText search m.regex text).value.toText := by
  cases s <;> first | rfl | cases hs

/-- What is shown of a slot that holds something tells what it holds. -/
theorem shownIn_eq_iff (search : Search) (ha : a.has s = true) (hb : b.has s = true) :
    a.shownIn search s = b.shownIn search s ↔
      a.AgreesIn b s ∧ (s.isText = true → a.regex = b.regex) := by
  cases hs : s.isText with
  | true =>
      obtain ⟨text, htext⟩ := exists_text? hs ha
      obtain ⟨text', htext'⟩ := exists_text? hs hb
      rw [shownIn_text search a hs, shownIn_text search b hs, agreesIn_iff_text? hs, htext, htext',
        Option.elim_some, Option.elim_some, Pattern.toText_ofText_eq_iff, Option.some_inj]
      simp [and_comm]
  | false =>
      rw [and_iff_left (by simp)]
      cases s with
      | userId =>
          obtain ⟨id, hid, _⟩ := (Option.any_eq_true _ _).mp ha
          obtain ⟨id', hid', _⟩ := (Option.any_eq_true _ _).mp hb
          simp only [shownIn, AgreesIn, hid, hid', Option.elim_some, Option.some_inj]
          exact natural_text_inj.trans UInt64.toNat_inj
      | isAdmin =>
          obtain ⟨admin, hadmin⟩ := Option.isSome_iff_exists.mp ha
          obtain ⟨admin', hadmin'⟩ := Option.isSome_iff_exists.mp hb
          simp only [shownIn, AgreesIn, hadmin, hadmin', Option.elim_some, Option.some_inj]
          cases admin <;> cases admin' <;> simp
      | priority =>
          obtain ⟨value, hvalue⟩ := Option.isSome_iff_exists.mp ha
          obtain ⟨value', hvalue'⟩ := Option.isSome_iff_exists.mp hb
          simp only [shownIn, AgreesIn, hvalue, hvalue', Option.elim_some, Option.some_inj]
          exact integer_text_inj.trans Int64.toInt_inj
      | _ => cases hs

theorem shown_eq_iff (search : Search) (ha : a.WellFormed) (hb : b.WellFormed)
    (hmode : a.mode = b.mode) : a.shown search = b.shown search ↔ a.SameTest b := by
  rw [shown, shown, ← hmode]
  cases hslot : a.mode.slot? with
  | none => exact iff_of_true rfl ⟨hmode, by simp [hslot], by simp [hslot]⟩
  | some s =>
      have hhas : a.has s = true := (ha.has_iff s).mpr hslot
      have hhas' : b.has s = true := (hb.has_iff s).mpr (hmode ▸ hslot)
      rw [Option.elim_some, Option.elim_some, shownIn_eq_iff search hhas hhas']
      constructor
      · rintro ⟨hagree, hregex⟩
        have honly (t : Slot) (ht : a.mode.slot? = some t) : s = t :=
          Option.some.inj (hslot.symm.trans ht)
        refine ⟨hmode, fun t ht => ?_, fun t ht => ?_⟩
        · rwa [← honly t ht]
        · rwa [← honly t ht]
      · rintro ⟨_, hagree, hregex⟩
        exact ⟨hagree s hslot, hregex s hslot⟩

end Match

namespace Condition

variable {search : Search} {a b : Match} {c d : Condition}

/-- The text of a condition has two parts: the words of the mode, and what its slot holds. -/
theorem Carries.toText_eq {m : Match} (h : Carries search m c) :
    c.toText = m.mode.words ++ m.shown search := by
  -- In every mode with a slot: `told` makes the text of what the slot holds.
  have hslot {A : Type} {mode : Mode} {held : Option A} {told : A → String} {a : A}
      (hmode : m.mode = mode) (hheld : held = some a)
      (htold : mode.slot?.elim "" (m.shownIn search) = held.elim "" told) :
      mode.words ++ told a = m.mode.words ++ m.shown search := by
    rw [Match.shown, hmode, htold, hheld, Option.elim_some]
  cases h with
  | any hmode =>
      rw [Match.shown, hmode]
      rfl
  | channelName hmode hheld =>
      rw [← hslot hmode hheld rfl]
      rfl
  | userName hmode hheld =>
      rw [← hslot hmode hheld rfl]
      rfl
  | userId hmode hheld =>
      rw [← hslot hmode hheld rfl]
      rfl
  | isAdmin hmode hheld =>
      rw [← hslot hmode hheld rfl]
      rfl
  | messageTitle hmode hheld =>
      rw [← hslot hmode hheld rfl]
      rfl
  | messageText hmode hheld =>
      rw [← hslot hmode hheld rfl]
      rfl
  | messageExtra hmode hheld =>
      rw [← hslot hmode hheld rfl]
      rfl
  | priority hmode hheld =>
      rw [← hslot hmode hheld rfl]
      rfl
  | priorityAbove hmode hheld =>
      rw [← hslot hmode hheld rfl]
      rfl
  | priorityBelow hmode hheld =>
      rw [← hslot hmode hheld rfl]
      rfl

theorem Carries.toText_eq_iff (hc : Carries search a c) (hd : Carries search b d)
    (ha : a.WellFormed) (hb : b.WellFormed) : c.toText = d.toText ↔ a.SameTest b := by
  rw [hc.toText_eq, hd.toText_eq]
  constructor
  · intro h
    have hknown : a.mode ∈ Mode.known := hc.mode_eq ▸ c.mode_mem_known
    have hknown' : b.mode ∈ Mode.known := hd.mode_eq ▸ d.mode_mem_known
    obtain ⟨hmode, hshown⟩ := Mode.eq_of_words_append hknown hknown' h
    exact (Match.shown_eq_iff search ha hb hmode).mp hshown
  · intro h
    rw [h.mode, (Match.shown_eq_iff search ha hb h.mode).mpr h]

/-- Two matches that pass their checks become conditions, and these have one text exactly if both
matches put messages to the same test; then all of them have the same outcome on every message. -/
theorem text_tells_test (search : Search) (a b : Match) (ha : a.check = .ok ())
    (hb : b.check = .ok ()) :
    ∃ c d, (compile search a).value = .ok c ∧ (compile search b).value = .ok d ∧
      (c.toText = d.toText ↔ a.SameTest b) ∧
      (c.toText = d.toText →
        (∀ msg, c.holds msg = d.holds msg) ∧
        ∀ msg, a.holds search msg = b.holds search msg) := by
  have haformed := Match.check_eq_ok_iff.mp ha
  have hbformed := Match.check_eq_ok_iff.mp hb
  obtain ⟨c, hc, hcarries⟩ := compile_of_wellFormed search haformed
  obtain ⟨d, hd, hdcarries⟩ := compile_of_wellFormed search hbformed
  have htext := hcarries.toText_eq_iff hdcarries haformed hbformed
  refine ⟨c, d, congrArg Logged.value hc, congrArg Logged.value hd, htext, fun heq => ?_⟩
  have hsame := (htext.mp heq).holds_eq search
  refine ⟨fun msg => ?_, hsame⟩
  rw [hcarries.holds_eq, hdcarries.holds_eq, hsame]

/-- Asks for an expression that does not compile. -/
def brokenName : Match := { mode := .userName, regex := true, userName := some "[" }

/-- Asks for a name that is what the first shows of its expression. -/
def mockName : Match := { mode := .userName, userName := some "/[/ (invalid)" }

/-- Asks for an expression that begins with what the first shows. -/
def mockExpression : Match := { mode := .userName, regex := true, userName := some "[/ (invalid)]" }

/-- The first is told from both that imitate it. A mark of expressions beside an id does not show,
and makes no difference. -/
theorem text_tells_test_imitations :
    (Regex.search "[").isNone ∧
      (∀ m ∈ [mockName, mockExpression], ∃ c d, (compile Regex.search brokenName).value = .ok c ∧
        (compile Regex.search m).value = .ok d ∧ c.toText ≠ d.toText) ∧
      ∃ c d, (compile Regex.search { mode := .userId, regex := true, userId := some 3 }).value =
          .ok c ∧
        (compile Regex.search { mode := .userId, userId := some 3 }).value = .ok d ∧
        c.toText = d.toText ∧ ∀ msg, c.holds msg = d.holds msg := by
  refine ⟨by decide +kernel, ?_, ?_⟩
  · intro m hm
    have hcheck : ∀ m ∈ [mockName, mockExpression], m.check = .ok () := by decide
    have hother : ∀ m ∈ [mockName, mockExpression], brokenName.userName ≠ m.userName := by decide
    obtain ⟨c, d, hc, hd, htext, _⟩ :=
      text_tells_test Regex.search brokenName m (by decide) (hcheck m hm)
    refine ⟨c, d, hc, hd, fun heq => ?_⟩
    exact hother m hm ((htext.mp heq).slot .userName rfl)
  · obtain ⟨c, d, hc, hd, htext, hholds⟩ :=
      text_tells_test Regex.search { mode := .userId, regex := true, userId := some 3 }
        { mode := .userId, userId := some 3 } (by decide) (by decide)
    have heq : c.toText = d.toText := by
      refine htext.mpr ⟨rfl, ?_, ?_⟩
      · rintro _ ⟨⟩
        rfl
      · rintro _ ⟨⟩ ⟨⟩
    exact ⟨c, d, hc, hd, heq, (hholds heq).1⟩

end Condition

end BroadcastFilter
