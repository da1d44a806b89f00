import BroadcastFilter.Proofs.Explanation
import BroadcastFilter.Proofs.Refusal

/-!
Two chains one after the other. Putting a second chain behind a first keeps apart what each of them
does: the second decides where the first falls back on its default, the steps and the faults of the
second come after those of the first with their places moved on by the length of the first, and the
whole can be made ready exactly when both parts can.
-/

namespace BroadcastFilter

/-- An entry at a place, moved on by `n` places. -/
def movedOn {A : Type} (n : Nat) (entry : Nat × A) : Nat × A := (n + entry.1, entry.2)

theorem firstAction_append {R : Type} {applies : R → Bool} {action : R → Action}
    {default : Action} (before after : List R) :
    firstAction applies action default (before ++ after) =
      firstAction applies action (firstAction applies action default after) before := by
  induction before with
  | nil => rfl
  | cons r rest ih => rw [List.cons_append, firstAction_cons, firstAction_cons, ih]

namespace Trace

/-- The step of a rule that stands `n` places later. -/
def Step.movedOn (n : Nat) (s : Step) : Step := { s with index := n + s.index }

/-- The trace of rules that stand `n` places later. -/
def movedOn (n : Nat) (t : Trace) : Trace := { t with steps := t.steps.map (·.movedOn n) }

end Trace

namespace Chain

instance : Append Chain := ⟨fun a b => ⟨a.rules ++ b.rules⟩⟩

@[simp] theorem rules_append (a b : Chain) : (a ++ b).rules = a.rules ++ b.rules := rfl

variable {search : Search} {msg : Message}

theorem value_evaluate_append (a b : Chain) (default : Action) :
    ((a ++ b).evaluate search msg default).value =
      (a.evaluate search msg (b.evaluate search msg default).value).value := by
  simp only [value_evaluate, rules_append]
  exact firstAction_append a.rules b.rules

/-- Where a trace begins to count shows in the places of its steps and in nothing else. -/
theorem value_traceFrom_add (n index : Nat) (default : Action) (rules : List Rule) :
    (traceFrom search msg default (n + index) rules).value =
      (traceFrom search msg default index rules).value.movedOn n := by
  induction rules generalizing index with
  | nil => rfl
  | cons r rest ih =>
      have hrest := ih (index + 1)
      rw [← Nat.add_assoc] at hrest
      rw [value_traceFrom_cons, value_traceFrom_cons, hrest]
      split
      · rfl
      · rfl

/-- A trace goes no further than the first rule that applies, and then has no use for a default. -/
theorem value_traceFrom_append_of_applies {before : List Rule} (rest : List Rule) (index : Nat)
    (default default' : Action) (h : ∃ r ∈ before, r.appliesTo search msg = true) :
    (traceFrom search msg default index (before ++ rest)).value =
      (traceFrom search msg default' index before).value := by
  induction before generalizing index with
  | nil =>
      obtain ⟨r, hr, _⟩ := h
      cases hr
  | cons r more ih =>
      rw [List.cons_append, value_traceFrom_cons, value_traceFrom_cons]
      cases hhead : r.appliesTo search msg with
      | true => rfl
      | false =>
          obtain ⟨r', hr', happlies⟩ := h
          have hmore : ∃ r ∈ more, r.appliesTo search msg = true := by
            rcases List.mem_cons.mp hr' with rfl | hr'
            · rw [hhead] at happlies
              cases happlies
            · exact ⟨r', hr', happlies⟩
          rw [ih (index + 1) hmore]

theorem trace_append_of_applies {a : Chain} (b : Chain) (default default' : Action)
    (h : ∃ r ∈ a.rules, r.appliesTo search msg = true) :
    (a ++ b).trace search msg default = a.trace search msg default' :=
  value_traceFrom_append_of_applies b.rules 0 default default' h

theorem trace_append_of_none {a : Chain} (b : Chain) (default : Action)
    (h : ∀ r ∈ a.rules, r.appliesTo search msg = false) :
    (a ++ b).trace search msg default =
      let later := (b.trace search msg default).movedOn a.rules.length
      { later with steps := (a.trace search msg default).steps ++ later.steps } := by
  have hlater : (traceFrom search msg default (0 + a.rules.length) b.rules).value =
      (b.trace search msg default).movedOn a.rules.length := by
    rw [Nat.zero_add]
    exact value_traceFrom_add a.rules.length 0 default b.rules
  rw [trace_of_none h, trace, traced, rules_append, value_traceFrom_append 0 b.rules h, hlater]

theorem faults_append (strict : Bool) (a b : Chain) :
    (a ++ b).faults strict =
      a.faults strict ++ (b.faults strict).map (movedOn a.rules.length) := by
  have hplaces : b.rules.zipIdx a.rules.length =
      b.rules.zipIdx.map fun placed => (placed.1, a.rules.length + placed.2) :=
    List.zipIdx_eq_map_add ..
  unfold faults
  rw [rules_append, List.zipIdx_append, List.flatMap_append, Nat.zero_add, hplaces,
    List.flatMap_map, List.map_flatMap]
  simp only [List.map_map]
  rfl

theorem found_checkWith_append (strict : Bool) (a b : Chain) :
    found ((a ++ b).checkWith strict) =
      found (a.checkWith strict) ++ (found (b.checkWith strict)).map (movedOn a.rules.length) := by
  rw [found_checkWith, found_checkWith, found_checkWith, faults_append]

theorem check_append_eq_ok_iff {a b : Chain} :
    (a ++ b).check = .ok () ↔ a.check = .ok () ∧ b.check = .ok () := by
  simp only [check_eq_ok_iff, WellFormed, rules_append, List.forall_mem_append]

end Chain

/-- Filters of two chains decide one after the other as a filter of the whole. -/
theorem Filter.value_evaluate_append {search : Search} {a b : Chain} {f g h : Filter}
    (hwhole : (compile search (a ++ b)).value = .ok h) (hf : (compile search a).value = .ok f)
    (hg : (compile search b).value = .ok g) (msg : Message) (default : Action) :
    (h.evaluate msg default).value =
      (f.evaluate msg (g.evaluate msg default).value).value := by
  rw [value_evaluate_of_carries (compile_eq_ok hwhole).2,
    value_evaluate_of_carries (compile_eq_ok hf).2, value_evaluate_of_carries (compile_eq_ok hg).2,
    Chain.value_evaluate_append]

namespace Chain

/-- Two chains one after the other decide by the second where the first falls back on its default.
The trace is that of the first chain if one of its rules applies, and otherwise goes on through the
second with the places moved on; the faults of both checks are those of the first chain and then
those of the second, their places moved on; and the whole can be made ready exactly if both can,
with filters that decide one after the other. -/
theorem append_homomorphism (search : Search) (a b : Chain) :
    (∀ msg default, ((a ++ b).evaluate search msg default).value =
      (a.evaluate search msg (b.evaluate search msg default).value).value) ∧
    (∀ msg default, (∃ r ∈ a.rules, r.appliesTo search msg = true) →
      (a ++ b).trace search msg default = a.trace search msg default) ∧
    (∀ msg default, (¬ ∃ r ∈ a.rules, r.appliesTo search msg = true) →
      (a ++ b).trace search msg default =
        ⟨(b.trace search msg default).result,
          (a.trace search msg default).steps ++
            (b.trace search msg default).steps.map (·.movedOn a.rules.length),
          (b.trace search msg default).usedDefault⟩) ∧
    found (a ++ b).check = found a.check ++ (found b.check).map (movedOn a.rules.length) ∧
    found (a ++ b).checkStrictly =
      found a.checkStrictly ++ (found b.checkStrictly).map (movedOn a.rules.length) ∧
    ((∃ h, (Filter.compile search (a ++ b)).value = .ok h) ↔
      (∃ f, (Filter.compile search a).value = .ok f) ∧
        ∃ g, (Filter.compile search b).value = .ok g) ∧
    ∀ f g h, (Filter.compile search a).value = .ok f → (Filter.compile search b).value = .ok g →
      (Filter.compile search (a ++ b)).value = .ok h →
      ∀ msg default, (h.evaluate msg default).value =
        (f.evaluate msg (g.evaluate msg default).value).value := by
  refine ⟨?_, ?_, ?_, found_checkWith_append false a b, found_checkWith_append true a b, ?_, ?_⟩
  · intro msg default
    exact value_evaluate_append a b default
  · intro msg default happlies
    exact trace_append_of_applies b default default happlies
  · intro msg default hnone
    refine trace_append_of_none b default fun r hr => ?_
    rw [← Bool.not_eq_true]
    intro happlies
    exact hnone ⟨r, hr, happlies⟩
  · simp only [Filter.exists_value_compile_iff, check_append_eq_ok_iff]
  · intro f g h hf hg hwhole
    exact Filter.value_evaluate_append hwhole hf hg

/-- A rule about channels before the sender filter of a new user. A message in that channel is
decided by the first chain, and another one goes through the second with its places moved on. -/
theorem append_homomorphism_starter :
    let a : Chain := ⟨[⟨[{ mode := .channelName, channelName := some "ads" }], .reject⟩]⟩
    let b := Config.starter.senderFilter
    (a ++ b).trace Regex.search { channelName := "ads" } .accept =
        a.trace Regex.search { channelName := "ads" } .accept ∧
      ((a ++ b).trace Regex.search {} .accept).steps.map (·.index) = [0, 1, 2, 3] ∧
      ∃ f g h, (Filter.compile Regex.search a).value = .ok f ∧
        (Filter.compile Regex.search b).value = .ok g ∧
        (Filter.compile Regex.search (a ++ b)).value = .ok h ∧
        (h.evaluate {} .reject).value =
          (f.evaluate {} (g.evaluate {} .reject).value).value := by
  intro a b
  obtain ⟨_, hfirst, hsecond, _, _, hready, hfilters⟩ := append_homomorphism Regex.search a b
  have ha : a.check = .ok () := by decide
  have hb : b.check = .ok () := by decide
  obtain ⟨f, hf⟩ : ∃ f, (Filter.compile Regex.search a).value = .ok f :=
    Filter.exists_value_compile_iff.mpr ha
  obtain ⟨g, hg⟩ : ∃ g, (Filter.compile Regex.search b).value = .ok g :=
    Filter.exists_value_compile_iff.mpr hb
  obtain ⟨h, hh⟩ := hready.mpr ⟨⟨f, hf⟩, g, hg⟩
  refine ⟨hfirst _ _ ?_, ?_, f, g, h, hf, hg, hh, hfilters f g h hf hg hh _ _⟩
  · exact ⟨_, List.mem_singleton.mpr rfl, by decide +kernel⟩
  · have hnone : ¬ ∃ r ∈ a.rules, r.appliesTo Regex.search {} = true := by decide +kernel
    rw [hsecond _ _ hnone]
    decide +kernel

end Chain

end BroadcastFilter
