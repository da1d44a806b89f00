import BroadcastFilter.Proofs.Explanation
import BroadcastFilter.Proofs.Refusal

/-!
What the log is told of decisions. A chain tells of one event for every message: the rule that has
decided, by its place, or that none has. A filter tells of the rule alone and is silent otherwise. A
chain, its trace and its filter each look for that rule in a way of their own; all three come to the
first rule that applies, so the log names the rule of the trace.
-/

namespace BroadcastFilter

namespace Chain

variable {search : Search} {msg : Message} {default : Action}

/-- Rules that do not apply are passed over in silence, though they count. -/
theorem evaluateFrom_append (index : Nat) {before : List Rule} (rest : List Rule)
    (hbefore : ∀ r ∈ before, r.appliesTo search msg = false) :
    evaluateFrom search msg default index (before ++ rest) =
      evaluateFrom search msg default (index + before.length) rest := by
  induction before generalizing index with
  | nil => rfl
  | cons r more ih =>
      have hhead := hbefore r (by simp)
      have htail := ih (index + 1) fun r' hr' => hbefore r' (by simp [hr'])
      have hplace : index + 1 + more.length = index + (r :: more).length := by
        rw [List.length_cons]
        omega
      rw [List.cons_append, evaluateFrom, if_neg (by simp [hhead]), htail, hplace]

theorem evaluate_of_first {c : Chain} {k : Nat} {r : Rule}
    (h : FirstApplying search msg c k r) :
    c.evaluate search msg default = ⟨r.action, [.ruleMatched k r.action]⟩ := by
  obtain ⟨hsplit, hlength, hbefore⟩ := h.split
  rw [evaluate, hsplit, evaluateFrom_append 0 _ hbefore, evaluateFrom, if_pos h.applies, hlength,
    Nat.zero_add]
  rfl

theorem evaluate_of_none {c : Chain} (h : ∀ r ∈ c.rules, r.appliesTo search msg = false) :
    c.evaluate search msg default = ⟨default, [.noRuleMatched default]⟩ := by
  have hall : c.rules ++ [] = c.rules := List.append_nil c.rules
  rw [evaluate, ← hall, evaluateFrom_append 0 [] h]
  rfl

theorem FirstApplying.findIdx?_eq {c : Chain} {k : Nat} {r : Rule}
    (h : FirstApplying search msg c k r) :
    c.rules.findIdx? (·.appliesTo search msg) = some k := by
  obtain ⟨hk, hr⟩ := List.getElem?_eq_some_iff.mp h.place
  refine List.findIdx?_eq_some_iff_getElem.mpr ⟨hk, ?_, fun j hj => ?_⟩
  · rw [hr]
    exact h.applies
  · rw [h.least j _ hj (List.getElem?_eq_getElem _)]
    decide

/-- The rule that a trace names is the first that applies. -/
theorem decidedBy_trace (c : Chain) :
    (c.trace search msg default).decidedBy = c.rules.findIdx? (·.appliesTo search msg) := by
  rcases firstApplying_or_none search msg c with ⟨k, r, h⟩ | h
  · rw [decidedBy_of_first h, h.findIdx?_eq]
  · rw [decidedBy_of_none h, List.findIdx?_eq_none_iff.mpr h]

/-- No rule is told of while a trace is made, whether it applies or not. -/
theorem events_traceFrom (index : Nat) (rules : List Rule) :
    (traceFrom search msg default index rules).events = [] := by
  induction rules generalizing index with
  | nil => rfl
  | cons r rest ih =>
      rw [traceFrom_cons]
      split
      · rfl
      · rw [Logged.events_bind, ih, Logged.events_pure, List.append_nil]

/-- What the log is told when a chain decides: the rule that the trace names and its action, or the
default. -/
theorem events_evaluate (c : Chain) :
    (c.evaluate search msg default).events =
      [match (c.trace search msg default).decidedBy with
        | some k => .ruleMatched k (c.evaluate search msg default).value
        | none => .noRuleMatched default] := by
  rcases firstApplying_or_none search msg c with ⟨k, r, h⟩ | h
  · rw [decidedBy_of_first h, evaluate_of_first h]
  · rw [decidedBy_of_none h, evaluate_of_none h]

end Chain

namespace Filter

theorem events_evaluate (f : Filter) (msg : Message) (default : Action) :
    (f.evaluate msg default).events =
      (f.rules.findIdx? (·.appliesTo msg)).toList.map .compiledRuleMatched := by
  rw [List.findIdx?_eq_fst_find?_zipIdx, evaluate]
  -- Both sides look at one search.
  generalize f.rules.zipIdx.find? _ = found
  cases found with
  | none => rfl
  | some placed => rfl

/-- The filter of a chain finds its first rule at the same place. -/
theorem findIdx?_of_carries {search : Search} {rules : List BroadcastFilter.Rule}
    {ready : List Rule} (h : List.Forall₂ (Rule.Carries search) rules ready) (msg : Message) :
    ready.findIdx? (·.appliesTo msg) = rules.findIdx? (·.appliesTo search msg) := by
  induction h with
  | nil => rfl
  | cons hhead _ ih => rw [List.findIdx?_cons, List.findIdx?_cons, hhead.appliesTo_eq, ih]

/-- A filter tells of the rule that the trace of its chain names. -/
theorem events_evaluate_of_carries {search : Search} {c : Chain} {f : Filter}
    (h : List.Forall₂ (Rule.Carries search) c.rules f.rules) (msg : Message) (default : Action) :
    (f.evaluate msg default).events =
      (c.trace search msg default).decidedBy.toList.map .compiledRuleMatched := by
  rw [events_evaluate, findIdx?_of_carries h, Chain.decidedBy_trace]

end Filter

/-- A configuration made ready tells of the rule that decides by the chain of the direction. -/
theorem ReadyConfig.events_decide {search : Search} {c : Config} {ready : ReadyConfig}
    (h : (c.compile search).value = .ok ready) (msg : Message) :
    (ready.decide msg).events =
      ((c.chainFor msg).trace search msg .accept).decidedBy.toList.map .compiledRuleMatched := by
  obtain ⟨_, _, hsender, hreceiver⟩ := Config.value_compile_eq_ok h
  unfold decide filterFor Config.chainFor
  cases msg.outbound with
  | false => exact Filter.events_evaluate_of_carries hsender msg .accept
  | true => exact Filter.events_evaluate_of_carries hreceiver msg .accept

/-- A chain that decides tells the log of one event: the rule that the trace names as the decider
with the action that is returned, or the default if the trace names none. Tracing tells nothing. A
filter of the chain tells of the same rule, and of nothing if there is none. A configuration made
ready tells what the one filter tells that it asks, for the decision the filter of the message's
direction; so its decision names the rule of the trace too. -/
theorem Chain.log_names_decider (search : Search) (msg : Message) :
    (∀ (c : Chain) (default : Action),
      (c.evaluate search msg default).events =
        [match (c.trace search msg default).decidedBy with
          | some k => .ruleMatched k (c.evaluate search msg default).value
          | none => .noRuleMatched default] ∧
      (c.traced search msg default).events = [] ∧
      ∀ f, (Filter.compile search c).value = .ok f →
        (f.evaluate msg default).events =
          (c.trace search msg default).decidedBy.toList.map .compiledRuleMatched) ∧
    (∀ ready : ReadyConfig,
      (ready.decide msg).events =
        ((if msg.outbound then ready.receiver else ready.sender).evaluate msg .accept).events ∧
      (ready.admitsInbound msg).events = (ready.sender.evaluate msg .accept).events ∧
      (ready.admitsOutbound msg).events = (ready.receiver.evaluate msg .accept).events) ∧
    ∀ (c : Config) (ready : ReadyConfig), (c.compile search).value = .ok ready →
      (ready.decide msg).events =
        ((c.chainFor msg).trace search msg .accept).decidedBy.toList.map .compiledRuleMatched := by
  refine ⟨?_, ?_, ?_⟩
  · intro c default
    refine ⟨c.events_evaluate, events_traceFrom 0 c.rules, fun f hf => ?_⟩
    exact Filter.events_evaluate_of_carries (Filter.compile_eq_ok hf).2 msg default
  · intro ready
    refine ⟨rfl, ?_, ?_⟩
    · exact List.append_nil _
    · exact List.append_nil _
  · intro c ready h
    exact ReadyConfig.events_decide h msg

/-- A new user's filters have decided on a blank message by their last rules. Without its last rule
the chain for what comes in tells of the default, and its filter is silent. -/
theorem Chain.log_names_decider_starter :
    let cut : Chain := ⟨Config.starter.senderFilter.rules.dropLast⟩
    (cut.evaluate Regex.search {} .reject).events = [.noRuleMatched .reject] ∧
      (∃ f, (Filter.compile Regex.search cut).value = .ok f ∧
        (f.evaluate {} .reject).events = []) ∧
      ∃ ready, (Config.starter.compile Regex.search).value = .ok ready ∧
        (ready.decide {}).events = [.compiledRuleMatched 2] := by
  intro cut
  obtain ⟨hchain, _, hconfig⟩ := Chain.log_names_decider Regex.search {}
  obtain ⟨hevents, _, hfilter⟩ := hchain cut .reject
  have hnone : (cut.trace Regex.search {} .reject).decidedBy = none := by decide +kernel
  have hcheck : Config.starter.check = .ok () := by decide
  obtain ⟨f, hf⟩ : ∃ f, (Filter.compile Regex.search cut).value = .ok f :=
    Filter.exists_value_compile_iff.mpr (by decide)
  obtain ⟨_, _, hready, _⟩ := Config.compile_of_check Regex.search hcheck
  rw [hnone] at hevents hfilter
  refine ⟨hevents, ⟨f, hf, hfilter f hf⟩, _, congrArg Logged.value hready, ?_⟩
  rw [hconfig Config.starter _ (congrArg Logged.value hready)]
  decide +kernel

end BroadcastFilter
