import BroadcastFilter.Proofs.Decision

/-!
What malformed rules amount to. A match that nothing can satisfy makes its whole rule inert, and a
slot that a mode does not look at has no say. So any chain, checked or not, decides as its repair
does: the chain without the inert rules and with those slots emptied. If the rules that are left
have known actions, the repair passes the check and its filter decides as the chain did.
-/

namespace BroadcastFilter

namespace Match

/-- Nothing satisfies the match: its mode is unknown, the slot of its mode holds nothing, or its
expression does not compile. -/
def isInert (search : Search) (m : Match) : Bool :=
  !m.mode.isKnown || m.mode.slot?.any (fun s => !m.has s) || m.isDead search

/-- What a slot holds, if the mode looks at the slot. -/
def looked {A : Type} (m : Match) (s : Slot) (held : Option A) : Option A :=
  if m.mode.slot? = some s then held else none

/-- The match with every slot emptied that its mode does not look at. -/
def clear (m : Match) : Match :=
  { m with
    channelName := m.looked .channelName m.channelName
    userName := m.looked .userName m.userName
    userId := m.looked .userId m.userId
    isAdmin := m.looked .isAdmin m.isAdmin
    messageTitle := m.looked .messageTitle m.messageTitle
    messageText := m.looked .messageText m.messageText
    messageExtra := m.looked .messageExtra m.messageExtra
    priority := m.looked .priority m.priority }

theorem any_nonempty_eq_true {held : Option String} {p : String → Bool} :
    (nonempty held).any p = true ↔ ∃ text, held = some text ∧ text ≠ "" ∧ p text = true := by
  cases held with
  | none => simp [nonempty]
  | some text =>
      by_cases htext : text = ""
      · simp [nonempty, Option.filter, htext]
      · simp [nonempty_some htext, htext]

/-- A text slot in which something was found holds a text that can be looked for. -/
theorem isInert_of_found {search : Search} {m : Match} {s : Slot} {held : Option String}
    {p : String → Bool} (hslot : m.mode.slot? = some s) (hknown : m.mode.isKnown = true)
    (hheld : m.text? s = held) (hhas : m.has s = (nonempty held).isSome)
    (hcompiles : ∀ text, p text = true → (m.regex && (search text).isNone) = false)
    (hfound : (nonempty held).any p = true) : m.isInert search = false := by
  obtain ⟨text, rfl, htext, hp⟩ := any_nonempty_eq_true.mp hfound
  have hdead : m.isDead search = false := by
    simpa only [isDead, patternText, hslot, Option.bind_some, hheld, Option.any_some] using
      hcompiles text hp
  simp [isInert, hslot, hknown, hhas, hdead, nonempty_some htext]

theorem isInert_of_plain {search : Search} {m : Match} {s : Slot}
    (hslot : m.mode.slot? = some s) (hknown : m.mode.isKnown = true) (hplain : m.text? s = none)
    (hhas : m.has s = true) : m.isInert search = false := by
  simp [isInert, isDead, patternText, hslot, hknown, hplain, hhas]

end Match

theorem Search.compiles_of_matchesText {search : Search} {regex : Bool} {text subject : String}
    (h : search.matchesText regex text subject = true) :
    (regex && (search text).isNone) = false := by
  cases regex with
  | false => rfl
  | true =>
      cases hsearch : search text with
      | none => simp [matchesText, hsearch] at h
      | some occursIn => rfl

theorem Search.compiles_of_matchesAnyKey {search : Search} {regex : Bool} {text : String}
    {keys : List String} (h : search.matchesAnyKey regex text keys = true) :
    (regex && (search text).isNone) = false := by
  cases regex with
  | false => rfl
  | true =>
      cases hsearch : search text with
      | none => simp [matchesAnyKey, hsearch] at h
      | some occursIn => rfl

namespace Match

theorem isInert_of_matchesText {search : Search} {m : Match} {s : Slot} {held : Option String}
    {subject : String} (hslot : m.mode.slot? = some s) (hknown : m.mode.isKnown = true)
    (hheld : m.text? s = held) (hhas : m.has s = (nonempty held).isSome)
    (hfound : m.matchesText search held subject = true) : m.isInert search = false :=
  isInert_of_found hslot hknown hheld hhas (fun _ => Search.compiles_of_matchesText) hfound

/-- A match that some message satisfies is not inert. -/
theorem isInert_of_holds {search : Search} {m : Match} {msg : Message}
    (h : m.holds search msg = true) : m.isInert search = false := by
  unfold holds at h
  -- What the match read was in the slot of its mode, so that slot holds something.
  cases hmode : m.mode with
  | any => simp [isInert, isDead, patternText, hmode, Mode.isKnown, Mode.slot?]
  | channelName =>
      simp only [hmode] at h
      exact isInert_of_matchesText (s := .channelName) (by rw [hmode]; rfl)
        (by rw [hmode]; rfl) rfl rfl h
  | userName =>
      simp only [hmode] at h
      exact isInert_of_matchesText (s := .userName) (by rw [hmode]; rfl)
        (by rw [hmode]; rfl) rfl rfl h
  | userId =>
      simp only [hmode] at h
      obtain ⟨id, hid, hsame⟩ := (Option.any_eq_true _ _).mp h
      have hzero : id ≠ 0 := (of_decide_eq_true hsame).1
      exact isInert_of_plain (by rw [hmode]; rfl) (by rw [hmode]; rfl) rfl
        (by simp [has, hid, hzero])
  | isAdmin =>
      simp only [hmode] at h
      obtain ⟨admin, hadmin, _⟩ := (Option.any_eq_true _ _).mp h
      exact isInert_of_plain (by rw [hmode]; rfl) (by rw [hmode]; rfl) rfl
        (by simp [has, hadmin])
  | messageTitle =>
      simp only [hmode] at h
      exact isInert_of_matchesText (s := .messageTitle) (by rw [hmode]; rfl)
        (by rw [hmode]; rfl) rfl rfl h
  | messageText =>
      simp only [hmode] at h
      exact isInert_of_matchesText (s := .messageText) (by rw [hmode]; rfl)
        (by rw [hmode]; rfl) rfl rfl h
  | messageExtra =>
      simp only [hmode] at h
      exact isInert_of_found (by rw [hmode]; rfl) (by rw [hmode]; rfl) rfl rfl
        (fun _ => Search.compiles_of_matchesAnyKey) h
  | priority =>
      simp only [hmode] at h
      obtain ⟨value, hvalue, _⟩ := (Option.any_eq_true _ _).mp h
      exact isInert_of_plain (by rw [hmode]; rfl) (by rw [hmode]; rfl) rfl
        (by simp [has, hvalue])
  | priorityAbove =>
      simp only [hmode] at h
      obtain ⟨bound, hbound, _⟩ := (Option.any_eq_true _ _).mp h
      exact isInert_of_plain (by rw [hmode]; rfl) (by rw [hmode]; rfl) rfl
        (by simp [has, hbound])
  | priorityBelow =>
      simp only [hmode] at h
      obtain ⟨bound, hbound, _⟩ := (Option.any_eq_true _ _).mp h
      exact isInert_of_plain (by rw [hmode]; rfl) (by rw [hmode]; rfl) rfl
        (by simp [has, hbound])
  | unknown tag => simp [hmode] at h

/-- No match reads a slot that its mode does not look at. -/
theorem holds_clear (search : Search) (m : Match) (msg : Message) :
    m.clear.holds search msg = m.holds search msg := by
  cases hmode : m.mode <;> simp [holds, clear, looked, hmode, Mode.slot?, matchesText]

theorem has_clear (m : Match) (s : Slot) :
    m.clear.has s = (decide (m.mode.slot? = some s) && m.has s) := by
  by_cases hslot : m.mode.slot? = some s
  · cases s <;> simp [has, clear, looked, hslot]
  · cases s <;> simp [has, clear, looked, hslot, nonempty]

theorem patternText_clear (m : Match) : m.clear.patternText = m.patternText := by
  cases hmode : m.mode <;> simp [patternText, text?, clear, looked, hmode, Mode.slot?]

theorem isDead_clear (search : Search) (m : Match) : m.clear.isDead search = m.isDead search := by
  rw [isDead, patternText_clear]
  rfl

/-- A match that is not inert is well formed once its idle slots are empty. -/
theorem wellFormed_clear {search : Search} {m : Match} (halive : m.isInert search = false) :
    m.clear.WellFormed := by
  have hknown : m.mode.isKnown = true := by
    cases hmode : m.mode.isKnown with
    | true => rfl
    | false => simp [isInert, hmode] at halive
  have hhas (s : Slot) (hslot : m.mode.slot? = some s) : m.has s = true := by
    cases hheld : m.has s with
    | true => rfl
    | false => simp [isInert, hslot, hheld] at halive
  refine ⟨hknown, fun s => ?_⟩
  rw [has_clear]
  constructor
  · intro h
    exact of_decide_eq_true (Bool.and_eq_true_iff.mp h).1
  · intro hslot
    have hslot' : m.mode.slot? = some s := hslot
    simp [hslot', hhas s hslot']

end Match

namespace Rule

/-- Some condition of the rule is inert, so the rule applies to no message. -/
def isInert (search : Search) (r : Rule) : Bool := r.conditions.any (·.isInert search)

def clear (r : Rule) : Rule := { r with conditions := r.conditions.map Match.clear }

theorem isInert_of_appliesTo {search : Search} {r : Rule} {msg : Message}
    (h : r.appliesTo search msg = true) : r.isInert search = false := by
  have hall := List.all_eq_true.mp h
  apply List.any_eq_false.mpr
  intro m hm
  rw [Match.isInert_of_holds (hall m hm)]
  decide

theorem appliesTo_clear (search : Search) (r : Rule) (msg : Message) :
    r.clear.appliesTo search msg = r.appliesTo search msg := by
  unfold appliesTo Match.allHold clear
  rw [List.all_map]
  congr 1
  funext m
  exact Match.holds_clear search m msg

theorem wellFormed_clear {search : Search} {r : Rule} (haction : r.action.isRecognized = true)
    (halive : r.isInert search = false) : r.clear.WellFormed := by
  refine ⟨haction, fun cleared hcleared => ?_⟩
  obtain ⟨m, hm, rfl⟩ := List.mem_map.mp hcleared
  exact Match.wellFormed_clear (by simpa using List.any_eq_false.mp halive m hm)

theorem isDead_of_mem_clear {search : Search} {r : Rule} (halive : r.isInert search = false)
    {cleared : Match} (hcleared : cleared ∈ r.clear.conditions) :
    cleared.isDead search = false := by
  obtain ⟨m, hm, rfl⟩ := List.mem_map.mp hcleared
  have hinert : m.isInert search = false := by
    simpa using List.any_eq_false.mp halive m hm
  rw [Match.isDead_clear]
  exact (Bool.or_eq_false_iff.mp hinert).2

end Rule

namespace Chain

/-- The chain without its inert rules, and with every slot emptied that a mode does not look at. -/
def repair (search : Search) (c : Chain) : Chain :=
  ⟨(c.rules.filter fun r => !r.isInert search).map Rule.clear⟩

theorem mem_repair {search : Search} {c : Chain} {r : Rule}
    (h : r ∈ (c.repair search).rules) :
    ∃ written ∈ c.rules, written.isInert search = false ∧ written.clear = r := by
  obtain ⟨written, hwritten, rfl⟩ := List.mem_map.mp h
  obtain ⟨hmem, halive⟩ := List.mem_filter.mp hwritten
  exact ⟨written, hmem, by simpa using halive, rfl⟩

theorem value_evaluate_repair (search : Search) (c : Chain) (msg : Message) (default : Action) :
    ((c.repair search).evaluate search msg default).value =
      (c.evaluate search msg default).value := by
  have hclear (r : Rule) :
      r.clear.appliesTo search msg = r.appliesTo search msg ∧ r.clear.action = r.action :=
    ⟨r.appliesTo_clear search msg, rfl⟩
  rw [value_evaluate, value_evaluate]
  calc firstAction (·.appliesTo search msg) (·.action) default (c.repair search).rules
      = firstAction (·.appliesTo search msg) (·.action) default
          (c.rules.filter fun r => !r.isInert search) := by
        apply firstAction_congr
        exact List.forall₂_map_left_iff.mpr (List.forall₂_same.mpr fun r _ => hclear r)
    _ = firstAction (·.appliesTo search msg) (·.action) default c.rules := by
        apply firstAction_filter
        intro r _ happlies
        simp [Rule.isInert_of_appliesTo happlies]

theorem wellFormed_repair {search : Search} {c : Chain}
    (hactions : ∀ r ∈ c.rules, r.isInert search = false → r.action.isRecognized = true) :
    (c.repair search).WellFormed := by
  intro r hr
  obtain ⟨written, hmem, halive, rfl⟩ := mem_repair hr
  exact Rule.wellFormed_clear (hactions written hmem halive) halive

/-- Nothing in a repaired chain looks for an expression that does not compile. -/
theorem isDead_of_mem_repair {search : Search} {c : Chain} {r : Rule}
    (hr : r ∈ (c.repair search).rules) {m : Match} (hm : m ∈ r.conditions) :
    m.isDead search = false := by
  obtain ⟨written, _, halive, rfl⟩ := mem_repair hr
  exact Rule.isDead_of_mem_clear halive hm

theorem refusals_repair (search : Search) (c : Chain) :
    (c.repair search).rules.flatMap (·.refusals search) = [] := by
  apply List.flatMap_eq_nil_iff.mpr
  intro r hr
  apply List.flatMap_eq_nil_iff.mpr
  intro m hm
  exact Match.refusals_eq_nil (isDead_of_mem_repair hr hm)

/-- Any chain decides as its repair. If the rules that the repair keeps have known actions, the
repair passes the check, becomes a filter with no expression that does not compile and none told to
the log, and that filter too decides as the chain. -/
theorem decides_as_repair (search : Search) (c : Chain) :
    (∀ msg default, (c.evaluate search msg default).value =
      ((c.repair search).evaluate search msg default).value) ∧
    ((∀ r ∈ c.rules, r.isInert search = false → r.action.isRecognized = true) →
      (c.repair search).check = .ok () ∧
      ∃ f, Filter.compile search (c.repair search) = ⟨.ok f, [.filterCompiled f.rules.length]⟩ ∧
        (∀ r ∈ f.rules, ∀ cond ∈ r.conditions, ∀ p, cond.pattern? = some p → p.isDead = false) ∧
        ∀ msg default,
          (f.evaluate msg default).value = (c.evaluate search msg default).value) := by
  constructor
  · intro msg default
    exact (value_evaluate_repair search c msg default).symm
  · intro hactions
    have hformed := wellFormed_repair hactions
    obtain ⟨f, hf, hcarries⟩ := Filter.compile_of_wellFormed search hformed
    refine ⟨check_eq_ok_iff.mpr hformed, f, ?_, ?_, ?_⟩
    · rw [hf, refusals_repair, List.nil_append]
    · intro r hr cond hcond p hp
      obtain ⟨written, hwritten, hrule⟩ := exists_left_of_forall₂ hcarries hr
      obtain ⟨m, hm, hcondition⟩ := exists_left_of_forall₂ hrule.conditions hcond
      exact hcondition.isDead_pattern (isDead_of_mem_repair hwritten hm) hp
    · intro msg default
      rw [Filter.value_evaluate_of_carries hcarries, value_evaluate_repair]

/-- Three rules that reject in ways that nothing satisfies: an unknown mode, an empty name and an
expression with an open bracket. The fourth has a priority that its mode does not look at. -/
def withMistakes : Chain :=
  ⟨[⟨[{ mode := .unknown "message_body", messageText := some "up" }], .reject⟩,
    ⟨[{ mode := .any }, { mode := .userName, userName := some "" }], .reject⟩,
    ⟨[{ mode := .messageText, regex := true, messageText := some "[up" }], .reject⟩,
    ⟨[{ mode := .isAdmin, isAdmin := some true, priority := some 0 }], .accept⟩]⟩

/-- The repair keeps one rule of the four, and its filter accepts the message of an admin as the
chain does. -/
theorem decides_as_repair_withMistakes :
    withMistakes.check ≠ .ok () ∧
      withMistakes.repair Regex.search =
        ⟨[⟨[{ mode := .isAdmin, isAdmin := some true }], .accept⟩]⟩ ∧
      (withMistakes.repair Regex.search).check = .ok () ∧
      ∃ f, (Filter.compile Regex.search (withMistakes.repair Regex.search)).value = .ok f ∧
        (f.evaluate { sender := { admin := true } } .reject).value = .accept := by
  obtain ⟨_, hrepair⟩ := decides_as_repair Regex.search withMistakes
  obtain ⟨hcheck, f, hcompile, _, hdecides⟩ := hrepair (by decide +kernel)
  refine ⟨by decide +kernel, by decide +kernel, hcheck, f, by rw [hcompile], ?_⟩
  rw [hdecides]
  decide +kernel

end Chain

end BroadcastFilter
