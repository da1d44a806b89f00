import BroadcastFilter.Proofs.Decision

/-!
Traces tell the truth about decisions. A trace passes over the rules that do not apply, one step for
each, and ends with the step of the first rule that applies; with no such rule it has a step for
every rule and the default. So its result is the decision, the rule it names is the one that
decided, and its length says how far the search went. Each step lists all conditions of its rule,
also those after one that does not hold.
-/

namespace BroadcastFilter

namespace Chain

variable {search : Search} {msg : Message} {default : Action}

/-- The step of a trace for a rule at a place. -/
def stepAt (search : Search) (msg : Message) (r : Rule) (index : Nat) : Trace.Step :=
  ⟨index, r.appliesTo search msg, outcomes search msg r.conditions⟩

/-- The steps for all rules of a list, whose first rule stands at place `index`. -/
def stepsFrom (search : Search) (msg : Message) (index : Nat) (rules : List Rule) :
    List Trace.Step :=
  (rules.zipIdx index).map fun (r, place) => stepAt search msg r place

theorem all_matched_outcomes (ms : List Match) :
    (outcomes search msg ms).all (·.matched) = Match.allHold search ms msg := by
  have hplaces : (ms.zipIdx.map Prod.fst).all (fun m => m.holds search msg) =
      ms.zipIdx.all fun placed => placed.1.holds search msg := List.all_map
  rw [List.zipIdx_map_fst] at hplaces
  unfold outcomes Match.allHold
  rw [hplaces, List.all_map]
  rfl

theorem traceFrom_cons (index : Nat) (r : Rule) (rest : List Rule) :
    traceFrom search msg default index (r :: rest) =
      if r.appliesTo search msg then return ⟨r.action, [stepAt search msg r index], false⟩
      else do
        let later ← traceFrom search msg default (index + 1) rest
        return { later with steps := stepAt search msg r index :: later.steps } := by
  simp only [traceFrom, all_matched_outcomes]
  rfl

theorem value_traceFrom_cons (index : Nat) (r : Rule) (rest : List Rule) :
    (traceFrom search msg default index (r :: rest)).value =
      if r.appliesTo search msg then ⟨r.action, [stepAt search msg r index], false⟩
      else
        let later := (traceFrom search msg default (index + 1) rest).value
        { later with steps := stepAt search msg r index :: later.steps } := by
  rw [traceFrom_cons, apply_ite Logged.value]
  rfl

theorem result_traceFrom (index : Nat) (rules : List Rule) :
    (traceFrom search msg default index rules).value.result =
      firstAction (·.appliesTo search msg) (·.action) default rules := by
  induction rules generalizing index with
  | nil => rfl
  | cons r rest ih =>
      rw [value_traceFrom_cons, firstAction_cons]
      split
      · rfl
      · exact ih (index + 1)

/-- Rules that do not apply add their steps and change nothing else. -/
theorem value_traceFrom_append (index : Nat) {before : List Rule} (rest : List Rule)
    (hbefore : ∀ r ∈ before, r.appliesTo search msg = false) :
    (traceFrom search msg default index (before ++ rest)).value =
      let later := (traceFrom search msg default (index + before.length) rest).value
      { later with steps := stepsFrom search msg index before ++ later.steps } := by
  induction before generalizing index with
  | nil => rfl
  | cons r more ih =>
      -- The later rules keep their places, so both ways of counting on must agree.
      have hhead := hbefore r (by simp)
      have htail := ih (index + 1) fun r' hr' => hbefore r' (by simp [hr'])
      rw [List.cons_append, value_traceFrom_cons, htail]
      have hplace : index + 1 + more.length = index + (r :: more).length := by
        rw [List.length_cons]
        omega
      simp [hhead, hplace, stepsFrom]

/-- The rule `r` at place `k` applies and none before it does. -/
structure FirstApplying (search : Search) (msg : Message) (c : Chain) (k : Nat) (r : Rule) :
    Prop where
  place : c.rules[k]? = some r
  applies : r.appliesTo search msg = true
  least : ∀ j r', j < k → c.rules[j]? = some r' → r'.appliesTo search msg = false

theorem FirstApplying.split {c : Chain} {k : Nat} {r : Rule}
    (h : FirstApplying search msg c k r) :
    c.rules = c.rules.take k ++ r :: c.rules.drop (k + 1) ∧ (c.rules.take k).length = k ∧
      ∀ r' ∈ c.rules.take k, r'.appliesTo search msg = false := by
  obtain ⟨hk, hr⟩ := List.getElem?_eq_some_iff.mp h.place
  refine ⟨?_, ?_, ?_⟩
  · rw [← hr, List.getElem_cons_drop, List.take_append_drop]
  · rw [List.length_take]
    omega
  · intro r' hr'
    obtain ⟨j, hj, hat⟩ := List.mem_take_iff_getElem.mp hr'
    exact h.least j r' (by omega) (by rw [← hat, List.getElem?_eq_getElem])

/-- Some rule is the first that applies, or none applies. -/
theorem firstApplying_or_none (search : Search) (msg : Message) (c : Chain) :
    (∃ k r, FirstApplying search msg c k r) ∨
      ∀ r ∈ c.rules, r.appliesTo search msg = false := by
  cases hfind : c.rules.findIdx? (·.appliesTo search msg) with
  | none => exact .inr (List.findIdx?_eq_none_iff.mp hfind)
  | some k =>
      obtain ⟨hk, happlies, hleast⟩ := List.findIdx?_eq_some_iff_getElem.mp hfind
      refine .inl ⟨k, c.rules[k], List.getElem?_eq_getElem hk, happlies, ?_⟩
      intro j r' hj hat
      obtain ⟨hlt, rfl⟩ := List.getElem?_eq_some_iff.mp hat
      simpa using hleast j hj

theorem FirstApplying.stepsFrom_take {c : Chain} {k : Nat} {r : Rule}
    (h : FirstApplying search msg c k r) :
    stepsFrom search msg 0 (c.rules.take (k + 1)) =
      stepsFrom search msg 0 (c.rules.take k) ++ [stepAt search msg r k] := by
  obtain ⟨_, hlength, _⟩ := h.split
  have hlast : c.rules.take (k + 1) = c.rules.take k ++ [r] := by
    rw [List.take_add_one, h.place]
    rfl
  rw [hlast, stepsFrom, stepsFrom, List.zipIdx_append, List.map_append, hlength]
  simp

theorem trace_of_first {c : Chain} {k : Nat} {r : Rule} (h : FirstApplying search msg c k r) :
    c.trace search msg default =
      ⟨r.action, stepsFrom search msg 0 (c.rules.take (k + 1)), false⟩ := by
  obtain ⟨hsplit, hlength, hbefore⟩ := h.split
  rw [h.stepsFrom_take]
  unfold trace traced
  rw [hsplit, value_traceFrom_append 0 _ hbefore, value_traceFrom_cons, hlength]
  simp [h.applies, hlength]

theorem trace_of_none {c : Chain} (h : ∀ r ∈ c.rules, r.appliesTo search msg = false) :
    c.trace search msg default = ⟨default, stepsFrom search msg 0 c.rules, true⟩ := by
  have hall : c.rules ++ [] = c.rules := List.append_nil c.rules
  rw [trace, traced, ← hall, value_traceFrom_append 0 [] h]
  simp [traceFrom]

theorem result_trace (c : Chain) :
    (c.trace search msg default).result = (c.evaluate search msg default).value := by
  rw [value_evaluate]
  exact result_traceFrom 0 c.rules

theorem FirstApplying.value_evaluate {c : Chain} {k : Nat} {r : Rule}
    (h : FirstApplying search msg c k r) : (c.evaluate search msg default).value = r.action := by
  rw [← result_trace, trace_of_first h]

theorem value_evaluate_of_none {c : Chain} (h : ∀ r ∈ c.rules, r.appliesTo search msg = false) :
    (c.evaluate search msg default).value = default := by
  rw [← result_trace, trace_of_none h]

theorem length_stepsFrom (index : Nat) (rules : List Rule) :
    (stepsFrom search msg index rules).length = rules.length := by
  simp [stepsFrom]

theorem getElem?_stepsFrom (rules : List Rule) (i : Nat) :
    (stepsFrom search msg 0 rules)[i]? = rules[i]?.map fun r => stepAt search msg r i := by
  simp [stepsFrom, List.getElem?_zipIdx, Function.comp_def]

theorem find?_stepsFrom {index : Nat} {rules : List Rule}
    (h : ∀ r ∈ rules, r.appliesTo search msg = false) :
    (stepsFrom search msg index rules).find? (·.matched) = none := by
  apply List.find?_eq_none.mpr
  intro s hs
  obtain ⟨⟨r, place⟩, hr, rfl⟩ := List.mem_map.mp hs
  simp [stepAt, h r (List.fst_mem_of_mem_zipIdx hr)]

theorem decidedBy_of_first {c : Chain} {k : Nat} {r : Rule}
    (h : FirstApplying search msg c k r) :
    (c.trace search msg default).decidedBy = some k := by
  obtain ⟨_, _, hbefore⟩ := h.split
  rw [trace_of_first h, h.stepsFrom_take]
  unfold Trace.decidedBy
  rw [List.find?_append, find?_stepsFrom hbefore]
  simp [stepAt, h.applies]

theorem decidedBy_of_none {c : Chain} (h : ∀ r ∈ c.rules, r.appliesTo search msg = false) :
    (c.trace search msg default).decidedBy = none := by
  rw [trace_of_none h]
  unfold Trace.decidedBy
  rw [find?_stepsFrom h]
  rfl

/-- A step stands for its rule: it has the rule's place and outcome, and it has every match of the
rule in order, with its place, its mode and its own outcome. -/
structure Explains (search : Search) (msg : Message) (i : Nat) (r : Rule) (s : Trace.Step) :
    Prop where
  index : s.index = i
  matched : s.matched = r.appliesTo search msg
  length : s.conditions.length = r.conditions.length
  conditions : ∀ (j : Nat) (m : Match), r.conditions[j]? = some m →
    s.conditions[j]? = some (⟨j, m.mode, m.holds search msg⟩ : Trace.Outcome)
  conjunction : s.matched = s.conditions.all (·.matched)

theorem explains_stepAt (r : Rule) (i : Nat) :
    Explains search msg i r (stepAt search msg r i) where
  index := rfl
  matched := rfl
  length := by simp [stepAt, outcomes]
  conditions := by
    intro j m hm
    simp [stepAt, outcomes, List.getElem?_zipIdx, hm]
  conjunction := (all_matched_outcomes r.conditions).symm

theorem explains_of_getElem? {rules : List Rule} {i : Nat} {s : Trace.Step}
    (h : (stepsFrom search msg 0 rules)[i]? = some s) :
    ∃ r, rules[i]? = some r ∧ Explains search msg i r s := by
  rw [getElem?_stepsFrom] at h
  obtain ⟨r, hr, rfl⟩ := Option.map_eq_some_iff.mp h
  exact ⟨r, hr, explains_stepAt r i⟩

/-- A trace has the result of the decision. If a rule is the first that applies, the trace ends with
it and names it; if none applies, the trace goes through all rules and has the default. Either way
its steps stand for the rules in order, and none but the last has matched. -/
theorem trace_explains (search : Search) (c : Chain) (msg : Message) (default : Action) :
    (c.trace search msg default).result = (c.evaluate search msg default).value ∧
    (∀ k r, FirstApplying search msg c k r →
      (c.trace search msg default).steps.length = k + 1 ∧
      (c.trace search msg default).usedDefault = false ∧
      (c.trace search msg default).result = r.action ∧
      (c.trace search msg default).decidedBy = some k) ∧
    ((∀ r ∈ c.rules, r.appliesTo search msg = false) →
      (c.trace search msg default).steps.length = c.rules.length ∧
      (c.trace search msg default).usedDefault = true ∧
      (c.trace search msg default).result = default ∧
      (c.trace search msg default).decidedBy = none) ∧
    ∀ i s, (c.trace search msg default).steps[i]? = some s →
      (∃ r, c.rules[i]? = some r ∧ Explains search msg i r s) ∧
      (s.matched = true → i + 1 = (c.trace search msg default).steps.length) := by
  refine ⟨?_, ?_, ?_, ?_⟩
  · rw [value_evaluate]
    exact result_traceFrom 0 c.rules
  · intro k r h
    obtain ⟨hk, _⟩ := List.getElem?_eq_some_iff.mp h.place
    rw [decidedBy_of_first h, trace_of_first h]
    refine ⟨?_, rfl, rfl, rfl⟩
    rw [length_stepsFrom, List.length_take]
    omega
  · intro h
    rw [decidedBy_of_none h, trace_of_none h]
    exact ⟨length_stepsFrom 0 c.rules, rfl, rfl, rfl⟩
  · intro i s hs
    rcases firstApplying_or_none search msg c with ⟨k, r, h⟩ | h
    · obtain ⟨hk, _⟩ := List.getElem?_eq_some_iff.mp h.place
      rw [trace_of_first h] at hs ⊢
      obtain ⟨r', htaken, hexplains⟩ := explains_of_getElem? hs
      have hlt : i < k + 1 := by
        have := (List.getElem?_eq_some_iff.mp htaken).1
        rw [List.length_take] at this
        omega
      have hr' : c.rules[i]? = some r' := by
        rw [List.getElem?_take_of_lt hlt] at htaken
        exact htaken
      refine ⟨⟨r', hr', hexplains⟩, fun hmatched => ?_⟩
      -- A step before the last belongs to a rule that does not apply.
      have hlast : ¬ i < k := by
        intro hbefore
        rw [hexplains.matched, h.least i r' hbefore hr'] at hmatched
        cases hmatched
      rw [length_stepsFrom, List.length_take]
      omega
    · rw [trace_of_none h] at hs ⊢
      obtain ⟨r, hr, hexplains⟩ := explains_of_getElem? hs
      refine ⟨⟨r, hr, hexplains⟩, fun hmatched => ?_⟩
      rw [hexplains.matched, h r (List.mem_of_getElem? hr)] at hmatched
      cases hmatched

/-- The chain of a new user lets a blank message in by its third rule, after two that do not apply.
-/
theorem trace_explains_starter :
    FirstApplying Regex.search {} Config.starter.senderFilter 2 ⟨[{ mode := .any }], .accept⟩ ∧
      (Config.starter.senderFilter.trace Regex.search {} .reject).steps.length = 3 ∧
      (Config.starter.senderFilter.trace Regex.search {} .reject).decidedBy = some 2 := by
  have hleast (j : Nat) (r : Rule) (hj : j < 2)
      (hr : Config.starter.senderFilter.rules[j]? = some r) :
      r.appliesTo Regex.search {} = false := by
    obtain rfl | rfl : j = 0 ∨ j = 1 := by omega
    · cases hr
      decide +kernel
    · cases hr
      decide +kernel
  have hfirst : FirstApplying Regex.search {} Config.starter.senderFilter 2
      ⟨[{ mode := .any }], .accept⟩ := ⟨rfl, rfl, hleast⟩
  obtain ⟨_, hdecided, _⟩ := trace_explains Regex.search Config.starter.senderFilter {} .reject
  obtain ⟨hlength, _, _, hplace⟩ := hdecided 2 _ hfirst
  exact ⟨hfirst, hlength, hplace⟩

end Chain

end BroadcastFilter
