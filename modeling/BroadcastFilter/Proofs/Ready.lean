import BroadcastFilter.Filter
import BroadcastFilter.Proofs.WellFormed
import Mathlib.Data.List.Forall2

/-!
What making ready does. For each of the functions that make a pattern, a condition, a rule and a
filter ready there is one statement with its whole outcome: on what is well formed it succeeds, the
result carries what was written, and the log names the patterns that do not compile. Later proofs
cite these statements and do not look into the functions again.
-/

namespace BroadcastFilter

namespace Pattern

variable (search : Search) (regex : Bool) (text : String)

theorem accepts_ofText (subject : String) :
    (ofText search regex text).value.accepts subject =
      search.matchesText regex text subject := by
  unfold ofText Search.matchesText
  cases regex with
  | false => rfl
  | true => cases search text <;> rfl

theorem acceptsAny_ofText (keys : List String) :
    (ofText search regex text).value.acceptsAny keys =
      search.matchesAnyKey regex text keys := by
  unfold ofText Search.matchesAnyKey
  cases regex with
  | false =>
      have hliteral : (literal text).accepts = (· == text) := by
        funext key
        exact Bool.beq_comm
      exact congrArg keys.any hliteral
  | true =>
      cases search text with
      | none => exact List.any_eq_false.mpr (by simp [accepts])
      | some occursIn => rfl

theorem isDead_ofText :
    (ofText search regex text).value.isDead = (regex && (search text).isNone) := by
  unfold ofText
  cases regex with
  | false => rfl
  | true => cases search text <;> rfl

theorem events_ofText :
    (ofText search regex text).events =
      if regex && (search text).isNone then [.patternRefused text] else [] := by
  unfold ofText
  cases regex with
  | false => rfl
  | true => cases search text <;> rfl

end Pattern

namespace Match

/-- The text in a text slot. -/
def text? (m : Match) : Slot → Option String
  | .channelName => m.channelName
  | .userName => m.userName
  | .messageTitle => m.messageTitle
  | .messageText => m.messageText
  | .messageExtra => m.messageExtra
  | .userId | .isAdmin | .priority => none

/-- The pattern that the mode compares with, as it is written. -/
def patternText (m : Match) : Option String := m.mode.slot?.bind m.text?

/-- The match looks for an expression that does not compile. -/
def isDead (search : Search) (m : Match) : Bool :=
  m.patternText.any fun text => m.regex && (search text).isNone

/-- What the log is told when the match is made ready. -/
def refusals (search : Search) (m : Match) : List Event :=
  m.patternText.elim [] fun text => (Pattern.ofText search m.regex text).events

theorem refusals_eq_nil {search : Search} {m : Match} (halive : m.isDead search = false) :
    m.refusals search = [] := by
  unfold refusals
  cases htext : m.patternText with
  | none => rfl
  | some text =>
      have hcompiles : (m.regex && (search text).isNone) = false := by
        simpa [isDead, htext] using halive
      rw [Option.elim_some, Pattern.events_ofText, hcompiles]
      rfl

end Match

namespace Condition

/-- A condition says what a match says: it has the mode of the match and carries what the slot of
that mode holds. -/
inductive Carries (search : Search) (m : Match) : Condition → Prop where
  | any (hmode : m.mode = .any) : Carries search m .any
  | channelName {text : String} (hmode : m.mode = .channelName)
      (hslot : m.channelName = some text) (htext : text ≠ "") :
      Carries search m (.channelName (Pattern.ofText search m.regex text).value)
  | userName {text : String} (hmode : m.mode = .userName)
      (hslot : m.userName = some text) (htext : text ≠ "") :
      Carries search m (.userName (Pattern.ofText search m.regex text).value)
  | userId {id : UInt64} (hmode : m.mode = .userId)
      (hslot : m.userId = some id) (hid : id ≠ 0) : Carries search m (.userId id)
  | isAdmin {admin : Bool} (hmode : m.mode = .isAdmin)
      (hslot : m.isAdmin = some admin) : Carries search m (.isAdmin admin)
  | messageTitle {text : String} (hmode : m.mode = .messageTitle)
      (hslot : m.messageTitle = some text) (htext : text ≠ "") :
      Carries search m (.messageTitle (Pattern.ofText search m.regex text).value)
  | messageText {text : String} (hmode : m.mode = .messageText)
      (hslot : m.messageText = some text) (htext : text ≠ "") :
      Carries search m (.messageText (Pattern.ofText search m.regex text).value)
  | messageExtra {text : String} (hmode : m.mode = .messageExtra)
      (hslot : m.messageExtra = some text) (htext : text ≠ "") :
      Carries search m (.messageExtra (Pattern.ofText search m.regex text).value)
  | priority {value : Int64} (hmode : m.mode = .priority)
      (hslot : m.priority = some value) : Carries search m (.priority value)
  | priorityAbove {bound : Int64} (hmode : m.mode = .priorityAbove)
      (hslot : m.priority = some bound) : Carries search m (.priorityAbove bound)
  | priorityBelow {bound : Int64} (hmode : m.mode = .priorityBelow)
      (hslot : m.priority = some bound) : Carries search m (.priorityBelow bound)

/-- The pattern that the condition compares with. -/
def pattern? : Condition → Option Pattern
  | .channelName p | .userName p | .messageTitle p | .messageText p | .messageExtra p => some p
  | .any | .userId _ | .isAdmin _ | .priority _ | .priorityAbove _ | .priorityBelow _ => none

theorem Carries.pattern?_eq {search : Search} {m : Match} {cond : Condition}
    (h : Carries search m cond) :
    cond.pattern? = m.patternText.map fun text => (Pattern.ofText search m.regex text).value := by
  cases h <;> simp [pattern?, Match.patternText, Match.text?, Mode.slot?, *]

/-- No condition looks for an expression that does not compile unless its match does. -/
theorem Carries.isDead_pattern {search : Search} {m : Match} {cond : Condition}
    (h : Carries search m cond) (halive : m.isDead search = false) {p : Pattern}
    (hp : cond.pattern? = some p) : p.isDead = false := by
  rw [h.pattern?_eq] at hp
  obtain ⟨text, htext, rfl⟩ := Option.map_eq_some_iff.mp hp
  rw [Pattern.isDead_ofText]
  simpa only [Match.isDead, htext, Option.any_some] using halive

/-- Each text mode demands its pattern and wraps it in its own way. -/
theorem made_of_text {search : Search} {m : Match} {slot : Slot} {text : String}
    (make : Pattern → Condition) (hmode : m.mode.slot? = some slot)
    (htext : m.text? slot = some text) :
    (do return (← demandPattern search m slot (some text)).map make :
        Logged (Except Match.Fault Condition)) =
      ⟨.ok (make (Pattern.ofText search m.regex text).value), m.refusals search⟩ := by
  have hrefusals : m.refusals search = (Pattern.ofText search m.regex text).events := by
    simp [Match.refusals, Match.patternText, hmode, htext]
  rw [hrefusals]
  simp only [demandPattern, demand, bind, pure, List.append_nil, Except.map]

theorem refusals_of_plain {search : Search} {m : Match}
    (hplain : m.mode.slot?.bind m.text? = none) : m.refusals search = [] := by
  simp [Match.refusals, Match.patternText, hplain]

/-- A well-formed match always becomes a condition; no slot that its mode demands is missing. -/
theorem ofChecked_of_wellFormed (search : Search) {m : Match} (h : m.WellFormed) :
    ∃ cond, ofChecked search m = ⟨.ok cond, m.refusals search⟩ ∧ Carries search m cond := by
  have hheld {s : Slot} (hs : m.mode.slot? = some s) : m.has s = true := (h.has_iff s).mpr hs
  -- In a text mode the log is that of the pattern; in the other modes there is none to refuse.
  cases hmode : m.mode with
  | any =>
      refine ⟨_, ?_, .any hmode⟩
      rw [refusals_of_plain (by rw [hmode]; rfl)]
      simp only [ofChecked, hmode, pure]
  | channelName =>
      have hslot? : m.mode.slot? = some .channelName := by rw [hmode]; rfl
      obtain ⟨text, hslot, htext⟩ := Match.isSome_nonempty_iff.mp (hheld hslot?)
      refine ⟨_, ?_, .channelName hmode hslot htext⟩
      simp only [ofChecked, hmode, hslot]
      exact made_of_text .channelName hslot? hslot
  | userName =>
      have hslot? : m.mode.slot? = some .userName := by rw [hmode]; rfl
      obtain ⟨text, hslot, htext⟩ := Match.isSome_nonempty_iff.mp (hheld hslot?)
      refine ⟨_, ?_, .userName hmode hslot htext⟩
      simp only [ofChecked, hmode, hslot]
      exact made_of_text .userName hslot? hslot
  | userId =>
      have hslot? : m.mode.slot? = some .userId := by rw [hmode]; rfl
      obtain ⟨id, hslot, hid⟩ := (Option.any_eq_true _ _).mp (hheld hslot?)
      refine ⟨_, ?_, .userId hmode hslot (by simpa using hid)⟩
      rw [refusals_of_plain (by rw [hmode]; rfl)]
      simp only [ofChecked, hmode, hslot, demand, pure, Except.map]
  | isAdmin =>
      have hslot? : m.mode.slot? = some .isAdmin := by rw [hmode]; rfl
      obtain ⟨admin, hslot⟩ := Option.isSome_iff_exists.mp (hheld hslot?)
      refine ⟨_, ?_, .isAdmin hmode hslot⟩
      rw [refusals_of_plain (by rw [hmode]; rfl)]
      simp only [ofChecked, hmode, hslot, demand, pure, Except.map]
  | messageTitle =>
      have hslot? : m.mode.slot? = some .messageTitle := by rw [hmode]; rfl
      obtain ⟨text, hslot, htext⟩ := Match.isSome_nonempty_iff.mp (hheld hslot?)
      refine ⟨_, ?_, .messageTitle hmode hslot htext⟩
      simp only [ofChecked, hmode, hslot]
      exact made_of_text .messageTitle hslot? hslot
  | messageText =>
      have hslot? : m.mode.slot? = some .messageText := by rw [hmode]; rfl
      obtain ⟨text, hslot, htext⟩ := Match.isSome_nonempty_iff.mp (hheld hslot?)
      refine ⟨_, ?_, .messageText hmode hslot htext⟩
      simp only [ofChecked, hmode, hslot]
      exact made_of_text .messageText hslot? hslot
  | messageExtra =>
      have hslot? : m.mode.slot? = some .messageExtra := by rw [hmode]; rfl
      obtain ⟨text, hslot, htext⟩ := Match.isSome_nonempty_iff.mp (hheld hslot?)
      refine ⟨_, ?_, .messageExtra hmode hslot htext⟩
      simp only [ofChecked, hmode, hslot]
      exact made_of_text .messageExtra hslot? hslot
  | priority =>
      have hslot? : m.mode.slot? = some .priority := by rw [hmode]; rfl
      obtain ⟨value, hslot⟩ := Option.isSome_iff_exists.mp (hheld hslot?)
      refine ⟨_, ?_, .priority hmode hslot⟩
      rw [refusals_of_plain (by rw [hmode]; rfl)]
      simp only [ofChecked, hmode, hslot, demand, pure, Except.map]
  | priorityAbove =>
      have hslot? : m.mode.slot? = some .priority := by rw [hmode]; rfl
      obtain ⟨bound, hslot⟩ := Option.isSome_iff_exists.mp (hheld hslot?)
      refine ⟨_, ?_, .priorityAbove hmode hslot⟩
      rw [refusals_of_plain (by rw [hmode]; rfl)]
      simp only [ofChecked, hmode, hslot, demand, pure, Except.map]
  | priorityBelow =>
      have hslot? : m.mode.slot? = some .priority := by rw [hmode]; rfl
      obtain ⟨bound, hslot⟩ := Option.isSome_iff_exists.mp (hheld hslot?)
      refine ⟨_, ?_, .priorityBelow hmode hslot⟩
      rw [refusals_of_plain (by rw [hmode]; rfl)]
      simp only [ofChecked, hmode, hslot, demand, pure, Except.map]
  | unknown tag =>
      have hknown := h.known
      simp [hmode, Mode.isKnown] at hknown

theorem compile_of_wellFormed (search : Search) {m : Match} (h : m.WellFormed) :
    ∃ cond, compile search m = ⟨.ok cond, m.refusals search⟩ ∧ Carries search m cond := by
  simp only [compile, Match.check_eq_ok_iff.mpr h]
  exact ofChecked_of_wellFormed search h

end Condition

/-- What the log is told when the rule is made ready. -/
def Rule.refusals (search : Search) (r : Rule) : List Event :=
  r.conditions.flatMap (·.refusals search)

theorem exists_left_of_forall₂ {A B : Type} {R : A → B → Prop} {as : List A} {bs : List B}
    (h : List.Forall₂ R as bs) {b : B} (hb : b ∈ bs) : ∃ a ∈ as, R a b := by
  induction h with
  | nil => simp at hb
  | cons hhead _ ih =>
      rcases List.mem_cons.mp hb with rfl | hrest
      · exact ⟨_, by simp, hhead⟩
      · obtain ⟨a, ha, hab⟩ := ih hrest
        exact ⟨a, by simp [ha], hab⟩

namespace Filter

/-- A rule made ready has the action of the rule as written and carries its matches in order. -/
structure Rule.Carries (search : Search) (written : BroadcastFilter.Rule) (r : Rule) : Prop where
  action : r.action = written.action
  conditions : List.Forall₂ (Condition.Carries search) written.conditions r.conditions

theorem compileMatches_of_wellFormed (search : Search) {ms : List Match}
    (h : ∀ m ∈ ms, m.WellFormed) (index : Nat) :
    ∃ conds, compileMatches search index ms =
        ⟨.ok conds, ms.flatMap (·.refusals search)⟩ ∧
      List.Forall₂ (Condition.Carries search) ms conds := by
  induction ms generalizing index with
  | nil => exact ⟨[], rfl, .nil⟩
  | cons m rest ih =>
      obtain ⟨cond, hcond, hcarries⟩ := Condition.compile_of_wellFormed search (h m (by simp))
      obtain ⟨conds, hconds, hrest⟩ := ih (fun m' hm' => h m' (by simp [hm'])) (index + 1)
      refine ⟨cond :: conds, ?_, .cons hcarries hrest⟩
      simp only [compileMatches, hcond, hconds, bind, pure, Except.map, List.flatMap_cons,
        List.append_nil]

theorem compileRules_of_wellFormed (search : Search) {rules : List BroadcastFilter.Rule}
    (h : ∀ r ∈ rules, r.WellFormed) (index : Nat) :
    ∃ ready, compileRules search index rules =
        ⟨.ok ready, rules.flatMap (·.refusals search)⟩ ∧
      List.Forall₂ (Rule.Carries search) rules ready := by
  induction rules generalizing index with
  | nil => exact ⟨[], rfl, .nil⟩
  | cons r rest ih =>
      obtain ⟨conds, hconds, hcarries⟩ :=
        compileMatches_of_wellFormed search (h r (by simp)).conditions 0
      obtain ⟨ready, hready, hrest⟩ := ih (fun r' hr' => h r' (by simp [hr'])) (index + 1)
      refine ⟨⟨conds, r.action⟩ :: ready, ?_, .cons ⟨rfl, hcarries⟩ hrest⟩
      simp only [compileRules, hconds, hready, bind, pure, Except.map, List.flatMap_cons,
        List.append_nil, BroadcastFilter.Rule.refusals]

/-- A well-formed chain always becomes a filter, rule by rule. -/
theorem compile_of_wellFormed (search : Search) {c : Chain} (h : c.WellFormed) :
    ∃ f, compile search c =
        ⟨.ok f, c.rules.flatMap (·.refusals search) ++ [.filterCompiled f.rules.length]⟩ ∧
      List.Forall₂ (Rule.Carries search) c.rules f.rules := by
  obtain ⟨ready, hready, hcarries⟩ := compileRules_of_wellFormed search h 0
  refine ⟨⟨ready⟩, ?_, hcarries⟩
  simp only [compile, Chain.check_eq_ok_iff.mpr h, hready, bind, pure, Logged.tell,
    List.append_nil]

/-- A chain that is not well formed becomes nothing, and its faults are those of the check. -/
theorem compile_of_faults (search : Search) {c : Chain} {faults : ChainFaults}
    (h : c.check = .error faults) : compile search c = ⟨.error faults, []⟩ := by
  simp only [compile, h, pure]

/-- Where a filter came out, the chain was well formed and the filter carries it. -/
theorem compile_eq_ok {search : Search} {c : Chain} {f : Filter}
    (h : (compile search c).value = .ok f) :
    c.WellFormed ∧ List.Forall₂ (Rule.Carries search) c.rules f.rules := by
  cases hcheck : c.check with
  | error faults => simp [compile_of_faults search hcheck] at h
  | ok _ =>
      have hformed := Chain.check_eq_ok_iff.mp hcheck
      obtain ⟨f', hf', hcarries⟩ := compile_of_wellFormed search hformed
      have hsame : f' = f := by simpa [hf'] using h
      exact ⟨hformed, hsame ▸ hcarries⟩

end Filter

end BroadcastFilter
