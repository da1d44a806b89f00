import BroadcastFilter.Config
import BroadcastFilter.Proofs.Ready
import BroadcastFilter.Regex.Engine

/-!
What the two evaluators decide. Both return the action of the first rule that applies and fall back
on the default, so the filter of a chain decides every message as the chain does, whatever the
search and also for a default that is no known action. That rests on what the check excludes: an
empty text or a zero id would be a condition to the filter and is none to the chain.
-/

namespace BroadcastFilter

/-- The action of the first rule that applies, or the default if none does. -/
def firstAction {R : Type} (applies : R → Bool) (action : R → Action) (default : Action)
    (rules : List R) : Action :=
  ((rules.find? applies).map action).getD default

section FirstAction

variable {R S : Type} {applies : R → Bool} {action : R → Action} {default : Action}

theorem firstAction_cons (r : R) (rest : List R) :
    firstAction applies action default (r :: rest) =
      if applies r then action r else firstAction applies action default rest := by
  unfold firstAction
  cases happlies : applies r <;> simp [happlies]

/-- Rules that agree place by place, on whether they apply and on what they do, decide alike. -/
theorem firstAction_congr {applies' : S → Bool} {action' : S → Action} {rules : List R}
    {others : List S}
    (hrules : List.Forall₂ (fun r s => applies r = applies' s ∧ action r = action' s)
      rules others) :
    firstAction applies action default rules = firstAction applies' action' default others := by
  induction hrules with
  | nil => rfl
  | cons hhead _ ih =>
      obtain ⟨happlies, haction⟩ := hhead
      rw [firstAction_cons, firstAction_cons, happlies, haction, ih]

/-- Rules that are left out without loss are those that do not apply. -/
theorem firstAction_filter {keep : R → Bool} {rules : List R}
    (hkeep : ∀ r ∈ rules, applies r = true → keep r = true) :
    firstAction applies action default (rules.filter keep) =
      firstAction applies action default rules := by
  induction rules with
  | nil => rfl
  | cons r rest ih =>
      have hrest := ih fun r' hr' => hkeep r' (by simp [hr'])
      cases hkept : keep r with
      | true =>
          rw [List.filter_cons_of_pos hkept, firstAction_cons, firstAction_cons, hrest]
      | false =>
          have hidle : applies r = false := by
            cases happlies : applies r with
            | false => rfl
            | true => simp [hkeep r (by simp) happlies] at hkept
          rw [List.filter_cons_of_neg (by simp [hkept]), firstAction_cons, hrest]
          simp [hidle]

/-- A property of the default and of every rule's action is one of the decision. -/
theorem firstAction_induction {p : Action → Prop} {rules : List R} (hdefault : p default)
    (hrules : ∀ r ∈ rules, p (action r)) : p (firstAction applies action default rules) := by
  induction rules with
  | nil => exact hdefault
  | cons r rest ih =>
      rw [firstAction_cons]
      split
      · exact hrules r (by simp)
      · exact ih fun r' hr' => hrules r' (by simp [hr'])

end FirstAction

namespace Chain

theorem value_evaluateFrom (search : Search) (msg : Message) (default : Action) (index : Nat)
    (rules : List Rule) :
    (evaluateFrom search msg default index rules).value =
      firstAction (·.appliesTo search msg) (·.action) default rules := by
  induction rules generalizing index with
  | nil => rfl
  | cons r rest ih =>
      rw [evaluateFrom, firstAction_cons]
      split
      · rfl
      · exact ih (index + 1)

theorem value_evaluate (search : Search) (c : Chain) (msg : Message) (default : Action) :
    (c.evaluate search msg default).value =
      firstAction (·.appliesTo search msg) (·.action) default c.rules :=
  value_evaluateFrom search msg default 0 c.rules

end Chain

namespace Filter

/-- The place that the filter finds along with the rule has no part in the decision. -/
theorem value_evaluate (f : Filter) (msg : Message) (default : Action) :
    (f.evaluate msg default).value =
      firstAction (·.appliesTo msg) (·.action) default f.rules := by
  have hplaces : (f.rules.zipIdx.find? fun placed => placed.1.appliesTo msg).map Prod.fst =
      f.rules.find? (·.appliesTo msg) := by
    have hmap : (f.rules.zipIdx.map Prod.fst).find? (·.appliesTo msg) =
        (f.rules.zipIdx.find? fun placed => placed.1.appliesTo msg).map Prod.fst := List.find?_map
    rw [← hmap, List.zipIdx_map_fst]
  unfold evaluate firstAction
  rw [← hplaces]
  split
  next r index hfound =>
    have hplaced : (f.rules.zipIdx.find? fun placed => placed.1.appliesTo msg) =
        some (r, index) := hfound
    rw [hplaced]
    rfl
  next hnone =>
    have hplaced : (f.rules.zipIdx.find? fun placed => placed.1.appliesTo msg) = none := hnone
    rw [hplaced]
    rfl

end Filter

namespace Condition.Carries

variable {search : Search} {m : Match} {cond : Condition}

theorem mode_eq (h : Carries search m cond) : cond.mode = m.mode := by
  cases h with
  | _ => simp only [Condition.mode, *]

theorem holds_eq (h : Carries search m cond) (msg : Message) :
    cond.holds msg = m.holds search msg := by
  -- Only the match guards against an empty text and the id zero; what it carries passes the guard.
  cases h with
  | any hmode => simp [Condition.holds, Match.holds, hmode]
  | channelName hmode hslot htext =>
      simp [Condition.holds, Match.holds, hmode, Match.matchesText, hslot,
        Match.nonempty_some htext, Pattern.accepts_ofText]
  | userName hmode hslot htext =>
      simp [Condition.holds, Match.holds, hmode, Match.matchesText, hslot,
        Match.nonempty_some htext, Pattern.accepts_ofText]
  | userId hmode hslot hid =>
      simp [Condition.holds, Match.holds, hmode, hslot, hid, beq_eq_decide]
  | isAdmin hmode hslot =>
      simp [Condition.holds, Match.holds, hmode, hslot]
  | messageTitle hmode hslot htext =>
      simp [Condition.holds, Match.holds, hmode, Match.matchesText, hslot,
        Match.nonempty_some htext, Pattern.accepts_ofText]
  | messageText hmode hslot htext =>
      simp [Condition.holds, Match.holds, hmode, Match.matchesText, hslot,
        Match.nonempty_some htext, Pattern.accepts_ofText]
  | messageExtra hmode hslot htext =>
      simp [Condition.holds, Match.holds, hmode, hslot, Match.nonempty_some htext,
        Pattern.acceptsAny_ofText]
  | priority hmode hslot =>
      simp [Condition.holds, Match.holds, hmode, hslot, Bool.beq_comm]
  | priorityAbove hmode hslot =>
      simp [Condition.holds, Match.holds, hmode, hslot]
  | priorityBelow hmode hslot =>
      simp [Condition.holds, Match.holds, hmode, hslot]

end Condition.Carries

theorem Condition.all_holds_eq {search : Search} {ms : List Match} {conds : List Condition}
    (h : List.Forall₂ (Condition.Carries search) ms conds) (msg : Message) :
    (conds.all fun cond => cond.holds msg) = Match.allHold search ms msg := by
  unfold Match.allHold
  induction h with
  | nil => rfl
  | cons hhead _ ih => rw [List.all_cons, List.all_cons, hhead.holds_eq, ih]

theorem Filter.Rule.Carries.appliesTo_eq {search : Search} {written : BroadcastFilter.Rule}
    {r : Filter.Rule} (h : Filter.Rule.Carries search written r) (msg : Message) :
    r.appliesTo msg = written.appliesTo search msg :=
  Condition.all_holds_eq h.conditions msg

namespace Filter

/-- A filter that carries a chain decides as the chain does. -/
theorem value_evaluate_of_carries {search : Search} {c : Chain} {f : Filter}
    (hrules : List.Forall₂ (Rule.Carries search) c.rules f.rules) (msg : Message)
    (default : Action) :
    (f.evaluate msg default).value = (c.evaluate search msg default).value := by
  rw [value_evaluate, Chain.value_evaluate]
  symm
  apply firstAction_congr
  exact hrules.imp fun written r h => ⟨(h.appliesTo_eq msg).symm, h.action.symm⟩

end Filter

/-- The condition has the mode of the match and the same outcome on every message. -/
structure Condition.Simulates (search : Search) (m : Match) (cond : Condition) : Prop where
  mode : cond.mode = m.mode
  holds : ∀ msg, cond.holds msg = m.holds search msg

/-- The rule made ready has the action of the rule as written, simulates its matches one by one and
applies to the same messages. -/
structure Filter.Rule.Simulates (search : Search) (written : BroadcastFilter.Rule)
    (r : Filter.Rule) : Prop where
  action : r.action = written.action
  conditions : List.Forall₂ (Condition.Simulates search) written.conditions r.conditions
  applies : ∀ msg, r.appliesTo msg = written.appliesTo search msg

theorem Filter.Rule.Carries.simulates {search : Search} {written : BroadcastFilter.Rule}
    {r : Filter.Rule} (h : Filter.Rule.Carries search written r) :
    Filter.Rule.Simulates search written r where
  action := h.action
  conditions := h.conditions.imp fun _ _ hcond => ⟨hcond.mode_eq, hcond.holds_eq⟩
  applies := h.appliesTo_eq

/-- A filter simulates the chain it was made from: rule by rule and condition by condition, and in
the decision on every message with every default. -/
theorem Filter.simulates_chain (search : Search) (c : Chain) (f : Filter)
    (hcompile : (Filter.compile search c).value = .ok f) :
    List.Forall₂ (Filter.Rule.Simulates search) c.rules f.rules ∧
      ∀ msg default,
        (f.evaluate msg default).value = (c.evaluate search msg default).value := by
  obtain ⟨_, hcarries⟩ := Filter.compile_eq_ok hcompile
  constructor
  · exact hcarries.imp fun _ _ h => h.simulates
  · exact Filter.value_evaluate_of_carries hcarries

/-- The sender filter of a new user becomes a filter of three rules that hides the chatter of the
server. -/
theorem Filter.simulates_starter :
    ∃ f, (Filter.compile Regex.search Config.starter.senderFilter).value = .ok f ∧
      f.rules.length = 3 ∧
      (f.evaluate { sender := { name := "my_server" }, text := "[INFO] up" } .accept).value =
        .reject := by
  have hformed : Config.starter.senderFilter.WellFormed := Chain.check_eq_ok_iff.mp (by decide)
  obtain ⟨f, hf, _⟩ := Filter.compile_of_wellFormed Regex.search hformed
  have hcompile : (Filter.compile Regex.search Config.starter.senderFilter).value = .ok f := by
    rw [hf]
  obtain ⟨hrules, hdecides⟩ := Filter.simulates_chain _ _ f hcompile
  refine ⟨f, hcompile, hrules.length_eq.symm, ?_⟩
  rw [hdecides]
  decide +kernel

end BroadcastFilter
