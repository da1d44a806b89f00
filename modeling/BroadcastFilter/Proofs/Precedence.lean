import BroadcastFilter.Proofs.Append
import Mathlib.Logic.Equiv.Fin.Rotate

/-!
What the order of rules is for. Of the rules that apply to a message the first decides, so the order
counts only between rules that apply to it and do different things: rules that do not are free to
change places, and a rule behind one that applies wherever it does never decides and can be left
out. All this holds of chains and of the filters made from them.
-/

namespace BroadcastFilter

namespace Rule

/-- Both rules apply to the message, and they do different things with it. -/
structure Conflicts (search : Search) (msg : Message) (r s : Rule) : Prop where
  left : r.appliesTo search msg = true
  right : s.appliesTo search msg = true
  action : r.action ≠ s.action

instance (search : Search) (msg : Message) (r s : Rule) : Decidable (Conflicts search msg r s) :=
  decidable_of_iff
    (r.appliesTo search msg = true ∧ s.appliesTo search msg = true ∧ r.action ≠ s.action)
    ⟨fun h => ⟨h.1, h.2.1, h.2.2⟩, fun h => ⟨h.left, h.right, h.action⟩⟩

/-- The rules have the same action and the same conditions, in whatever order and however often. -/
structure Restates (s r : Rule) : Prop where
  action : s.action = r.action
  conditions : ∀ m, m ∈ s.conditions ↔ m ∈ r.conditions

instance (s r : Rule) : Decidable (s.Restates r) :=
  decidable_of_iff
    (s.action = r.action ∧ (∀ m ∈ s.conditions, m ∈ r.conditions) ∧
      ∀ m ∈ r.conditions, m ∈ s.conditions)
    ⟨fun h => ⟨h.1, fun m => ⟨h.2.1 m, h.2.2 m⟩⟩,
      fun h => ⟨h.action, fun m => (h.conditions m).mp, fun m => (h.conditions m).mpr⟩⟩

/-- A rule applies wherever one that has all of its conditions does. -/
theorem appliesTo_of_subset {search : Search} {msg : Message} {r s : Rule}
    (hsub : ∀ m ∈ r.conditions, m ∈ s.conditions) (h : s.appliesTo search msg = true) :
    r.appliesTo search msg = true := by
  have hall := List.all_eq_true.mp h
  exact List.all_eq_true.mpr fun m hm => hall m (hsub m hm)

namespace Restates

variable {s r : Rule}

theorem appliesTo_eq (h : s.Restates r) (search : Search) (msg : Message) :
    s.appliesTo search msg = r.appliesTo search msg := by
  rw [Bool.eq_iff_iff]
  constructor
  · exact appliesTo_of_subset fun m => (h.conditions m).mpr
  · exact appliesTo_of_subset fun m => (h.conditions m).mp

theorem wellFormed (h : s.Restates r) (hr : r.WellFormed) : s.WellFormed where
  action := by
    rw [h.action]
    exact hr.action
  conditions m hm := hr.conditions m ((h.conditions m).mp hm)

end Restates

end Rule

namespace Chain

variable {search : Search} {msg : Message} {c other : Chain}

/-- One chain can take the place of another when the message is decided: it leads to the same
decision, also in traces and by the filters made from the two, and it passes the check and becomes a
filter if the other does. -/
structure Replaces (search : Search) (msg : Message) (other c : Chain) : Prop where
  evaluate : ∀ default,
    (other.evaluate search msg default).value = (c.evaluate search msg default).value
  trace : ∀ default,
    (other.trace search msg default).result = (c.trace search msg default).result
  check : c.check = .ok () → other.check = .ok ()
  ready : (∃ f, (Filter.compile search c).value = .ok f) →
    ∃ g, (Filter.compile search other).value = .ok g
  filter : ∀ f g, (Filter.compile search c).value = .ok f →
    (Filter.compile search other).value = .ok g →
    ∀ default, (g.evaluate msg default).value = (f.evaluate msg default).value

/-- Traces and filters follow the decisions of their chains. -/
theorem Replaces.of_evaluate
    (hvalue : ∀ default,
      (other.evaluate search msg default).value = (c.evaluate search msg default).value)
    (hformed : c.WellFormed → other.WellFormed) : Replaces search msg other c where
  evaluate := hvalue
  trace default := by
    rw [result_trace, result_trace]
    exact hvalue default
  check h := check_eq_ok_iff.mpr (hformed (check_eq_ok_iff.mp h))
  ready := by
    rw [Filter.exists_value_compile_iff, Filter.exists_value_compile_iff, check_eq_ok_iff,
      check_eq_ok_iff]
    exact hformed
  filter f g hf hg default := by
    rw [Filter.value_evaluate_of_carries (Filter.compile_eq_ok hf).2,
      Filter.value_evaluate_of_carries (Filter.compile_eq_ok hg).2]
    exact hvalue default

/-- The rules of a chain at other places, each perhaps restated, so that of two conflicting rules
the first stays before the second. -/
def Rearranges (search : Search) (msg : Message) (other c : Chain) : Prop :=
  ∃ place : Fin c.rules.length ≃ Fin other.rules.length,
    (∀ i, (other.rules[place i]).Restates c.rules[i]) ∧
    ∀ i j, i < j → Rule.Conflicts search msg c.rules[i] c.rules[j] → place i < place j

theorem FirstApplying.le {k i : Nat} {r s : Rule} (h : FirstApplying search msg c k r)
    (hs : c.rules[i]? = some s) (happlies : s.appliesTo search msg = true) : k ≤ i := by
  by_contra hlt
  have hidle := h.least i s (by omega) hs
  rw [hidle] at happlies
  cases happlies

/-- A rule of the other chain comes from some place and restates the rule there. -/
theorem exists_origin {place : Fin c.rules.length ≃ Fin other.rules.length}
    (hrules : ∀ i, (other.rules[place i]).Restates c.rules[i]) {l : Nat} {s : Rule}
    (hs : other.rules[l]? = some s) :
    ∃ i : Fin c.rules.length, (place i).val = l ∧ s.Restates c.rules[i] := by
  obtain ⟨hl, rfl⟩ := List.getElem?_eq_some_iff.mp hs
  obtain ⟨i, hi⟩ := place.surjective ⟨l, hl⟩
  have hplace : (place i).val = l := congrArg Fin.val hi
  subst hplace
  exact ⟨i, rfl, hrules i⟩

/-- The first rule that applies may be another one after rules have changed places, but then it is
one with the same action: else the rule that was first would have stayed before it. -/
theorem Rearranges.value_evaluate (h : Rearranges search msg other c) (default : Action) :
    (other.evaluate search msg default).value = (c.evaluate search msg default).value := by
  obtain ⟨place, hrules, horder⟩ := h
  rcases firstApplying_or_none search msg c with ⟨k, r, hfirst⟩ | hnone
  · obtain ⟨hk, hr⟩ := List.getElem?_eq_some_iff.mp hfirst.place
    obtain ⟨first, rfl⟩ : ∃ first : Fin c.rules.length, first.val = k := ⟨⟨k, hk⟩, rfl⟩
    subst hr
    have hkept : (other.rules[place first]).appliesTo search msg = true := by
      rw [(hrules first).appliesTo_eq]
      exact hfirst.applies
    have hplace : other.rules[(place first).val]? = some other.rules[place first] :=
      List.getElem?_eq_getElem (place first).isLt
    rcases firstApplying_or_none search msg other with ⟨l, s, hother⟩ | hidle
    · obtain ⟨i, hi, hs⟩ := exists_origin hrules hother.place
      have happlies : (c.rules[i]).appliesTo search msg = true := by
        rw [← hs.appliesTo_eq]
        exact hother.applies
      rw [hfirst.value_evaluate, hother.value_evaluate, hs.action]
      by_contra hne
      have hdistinct : first ≠ i := by
        rintro rfl
        exact hne rfl
      have hbefore : first.val ≤ i.val := hfirst.le (List.getElem?_eq_getElem i.isLt) happlies
      have hconflict : Rule.Conflicts search msg c.rules[first] c.rules[i] :=
        ⟨hfirst.applies, happlies, fun heq => hne heq.symm⟩
      have hstays : (place first).val < (place i).val :=
        horder first i (lt_of_le_of_ne hbefore hdistinct) hconflict
      have hleast : l ≤ (place first).val := hother.le hplace hkept
      omega
    · rw [hidle _ (List.mem_of_getElem? hplace)] at hkept
      cases hkept
  · have hidle (s : Rule) (hs : s ∈ other.rules) : s.appliesTo search msg = false := by
      obtain ⟨l, hl⟩ := List.getElem?_of_mem hs
      obtain ⟨i, _, hrestates⟩ := exists_origin hrules hl
      rw [hrestates.appliesTo_eq]
      exact hnone _ (List.getElem_mem ..)
    rw [value_evaluate_of_none hnone, value_evaluate_of_none hidle]

theorem Rearranges.wellFormed (h : Rearranges search msg other c) (hc : c.WellFormed) :
    other.WellFormed := by
  obtain ⟨place, hrules, _⟩ := h
  intro s hs
  obtain ⟨l, hl⟩ := List.getElem?_of_mem hs
  obtain ⟨i, _, hrestates⟩ := exists_origin hrules hl
  exact hrestates.wellFormed (hc _ (List.getElem_mem ..))

theorem Rearranges.replaces (h : Rearranges search msg other c) : Replaces search msg other c :=
  .of_evaluate h.value_evaluate h.wellFormed

/-- Rules that are restated where they stand. -/
theorem rearranges_of_restates (h : List.Forall₂ Rule.Restates other.rules c.rules) :
    Rearranges search msg other c := by
  obtain ⟨hlength, hrules⟩ := List.forall₂_iff_get.mp h
  refine ⟨finCongr hlength.symm, ?_, ?_⟩
  · intro i
    exact hrules i (finCongr hlength.symm i).isLt i.isLt
  · intro i j hij _
    exact hij

/-- Two neighbours can be exchanged unless both apply. -/
theorem value_evaluate_swap {before after : List Rule} {r s : Rule} (default : Action)
    (h : ¬ (r.appliesTo search msg = true ∧ s.appliesTo search msg = true)) :
    (evaluate search ⟨before ++ s :: r :: after⟩ msg default).value =
      (evaluate search ⟨before ++ r :: s :: after⟩ msg default).value := by
  simp only [Chain.value_evaluate, firstAction_append, firstAction_cons]
  by_cases hr : r.appliesTo search msg = true
  · have hs : ¬ s.appliesTo search msg = true := fun hs => h ⟨hr, hs⟩
    rw [if_neg hs, if_neg hs]
  · rw [if_neg hr, if_neg hr]

theorem replaces_swap {before after : List Rule} {r s : Rule}
    (hc : c.rules = before ++ r :: s :: after)
    (h : ¬ (r.appliesTo search msg = true ∧ s.appliesTo search msg = true)) :
    Replaces search msg ⟨before ++ s :: r :: after⟩ c := by
  obtain ⟨rules⟩ := c
  subst hc
  apply Replaces.of_evaluate
  · intro default
    exact value_evaluate_swap default h
  · intro hformed q hq
    refine hformed q ?_
    simp only [List.mem_append, List.mem_cons] at hq ⊢
    tauto

theorem value_evaluate_of_before {before rest : List Rule} {r : Rule} (default : Action)
    (hbefore : ∀ q ∈ before, q.appliesTo search msg = false)
    (happlies : r.appliesTo search msg = true) :
    (evaluate search ⟨before ++ r :: rest⟩ msg default).value = r.action := by
  refine (value_evaluate_append ⟨before⟩ ⟨r :: rest⟩ default).trans ?_
  rw [value_evaluate_of_none hbefore, Chain.value_evaluate, firstAction_cons, if_pos happlies]

/-- A message is decided as before when rules change places, unless two that conflict on it come to
stand in the other order; so two neighbours can be exchanged unless both apply. Nor does it matter in
which order and how often a rule has its conditions. The order does matter in a conflict: of two
conflicting neighbours, the one that comes first decides if no rule before them does. -/
theorem order_counts_in_conflicts (search : Search) (c : Chain) (msg : Message) :
    (∀ other, Rearranges search msg other c → Replaces search msg other c) ∧
    (∀ before r s after, c.rules = before ++ r :: s :: after →
      ¬ (r.appliesTo search msg = true ∧ s.appliesTo search msg = true) →
      Replaces search msg ⟨before ++ s :: r :: after⟩ c) ∧
    (∀ other : Chain, List.Forall₂ Rule.Restates other.rules c.rules →
      Replaces search msg other c) ∧
    ∀ before r s after, c.rules = before ++ r :: s :: after →
      (∀ q ∈ before, q.appliesTo search msg = false) → Rule.Conflicts search msg r s →
      ∀ default, (c.evaluate search msg default).value = r.action ∧
        (evaluate search ⟨before ++ s :: r :: after⟩ msg default).value = s.action := by
  refine ⟨?_, ?_, ?_, ?_⟩
  · intro other h
    exact h.replaces
  · intro before r s after hc h
    exact replaces_swap hc h
  · intro other h
    exact (rearranges_of_restates h).replaces
  · intro before r s after hc hbefore hconflict default
    obtain ⟨rules⟩ := c
    subst hc
    exact ⟨value_evaluate_of_before default hbefore hconflict.left,
      value_evaluate_of_before default hbefore hconflict.right⟩

def urgent : Rule := ⟨[{ mode := .priority, priority := some 5 }], .reject⟩

def urgentTwice : Rule :=
  ⟨[{ mode := .priority, priority := some 5 }, { mode := .priority, priority := some 5 }], .reject⟩

def anything : Rule := ⟨[{ mode := .any }], .accept⟩

def advert : Rule := ⟨[{ mode := .channelName, channelName := some "ads" }], .reject⟩

/-- On an urgent message the first two rules conflict, and the third does not apply if there is
nothing else to the message. So the third is free to go to any place, and the first may have its
condition twice; but with the first two exchanged the message is accepted. -/
theorem order_counts_in_conflicts_urgent :
    Replaces Regex.search { priority := 5 } ⟨[advert, urgentTwice, anything]⟩
        ⟨[urgent, anything, advert]⟩ ∧
      Replaces Regex.search { priority := 5 } ⟨[urgent, advert, anything]⟩
        ⟨[urgent, anything, advert]⟩ ∧
      Replaces Regex.search { priority := 5 } ⟨[urgentTwice, anything, advert]⟩
        ⟨[urgent, anything, advert]⟩ ∧
      (evaluate Regex.search ⟨[urgent, anything, advert]⟩ { priority := 5 } .accept).value =
        .reject ∧
      (evaluate Regex.search ⟨[anything, urgent, advert]⟩ { priority := 5 } .accept).value =
        .accept := by
  obtain ⟨hrearranged, hswapped, hrestated, hconflict⟩ :=
    order_counts_in_conflicts Regex.search ⟨[urgent, anything, advert]⟩ { priority := 5 }
  have hfree : Rearranges Regex.search { priority := 5 } ⟨[advert, urgentTwice, anything]⟩
      ⟨[urgent, anything, advert]⟩ := ⟨finRotate 3, by decide, by decide +kernel⟩
  refine ⟨hrearranged _ hfree, ?_, ?_, ?_⟩
  · exact hswapped [urgent] anything advert [] rfl (by decide +kernel)
  · exact hrestated _ (.cons (by decide) (.cons (by decide) (.cons (by decide) .nil)))
  · exact hconflict [] urgent anything [advert] rfl nofun (by decide +kernel) .accept

/-- The chain without the rule at a place. -/
def without (c : Chain) (j : Nat) : Chain := ⟨c.rules.eraseIdx j⟩

/-- Where the rule at place `k` stands once the one at place `j` is gone. -/
def placeWithout (j k : Nat) : Nat := if k < j then k else k - 1

theorem getElem?_without (c : Chain) (j i : Nat) :
    (c.without j).rules[i]? = if i < j then c.rules[i]? else c.rules[i + 1]? :=
  List.getElem?_eraseIdx

/-- If the rule that is gone was not the first to apply, the same rule is still the first. -/
theorem FirstApplying.without {j k : Nat} {r : Rule} (h : FirstApplying search msg c k r)
    (hk : k ≠ j) : FirstApplying search msg (c.without j) (placeWithout j k) r where
  place := by
    rw [getElem?_without, placeWithout, ← h.place]
    by_cases hlt : k < j
    · rw [if_pos hlt, if_pos hlt]
    · have hback : k - 1 + 1 = k := by omega
      rw [if_neg hlt, if_neg (by omega), hback]
  applies := h.applies
  least i s hi hs := by
    rw [getElem?_without] at hs
    unfold placeWithout at hi
    split at hs
    next hbefore => exact h.least i s (by split at hi <;> omega) hs
    next hbehind => exact h.least (i + 1) s (by split at hi <;> omega) hs

/-- The rule at place `i` stands before the one at place `j` and has no condition that the other has
not. -/
structure Shadows (c : Chain) (i j : Nat) : Prop where
  before : i < j
  conditions : ∃ r s, c.rules[i]? = some r ∧ c.rules[j]? = some s ∧
    ∀ m ∈ r.conditions, m ∈ s.conditions

/-- Where the later rule applies, the earlier one does too. -/
theorem Shadows.ne_of_first {i j k : Nat} {q : Rule} (h : c.Shadows i j)
    (hfirst : FirstApplying search msg c k q) : k ≠ j := by
  rintro rfl
  obtain ⟨r, s, hr, hs, hsub⟩ := h.conditions
  have hsame : q = s := Option.some.inj (hfirst.place.symm.trans hs)
  subst hsame
  have happlies := Rule.appliesTo_of_subset hsub hfirst.applies
  have hle := hfirst.le hr happlies
  have hlt := h.before
  omega

theorem idle_without (hnone : ∀ r ∈ c.rules, r.appliesTo search msg = false) (j : Nat) :
    ∀ r ∈ (c.without j).rules, r.appliesTo search msg = false :=
  fun r hr => hnone r (List.mem_of_mem_eraseIdx hr)

theorem Shadows.value_evaluate {i j : Nat} (h : c.Shadows i j) (default : Action) :
    ((c.without j).evaluate search msg default).value =
      (c.evaluate search msg default).value := by
  rcases firstApplying_or_none search msg c with ⟨k, r, hfirst⟩ | hnone
  · rw [hfirst.value_evaluate, (hfirst.without (h.ne_of_first hfirst)).value_evaluate]
  · rw [value_evaluate_of_none hnone, value_evaluate_of_none (idle_without hnone j)]

theorem WellFormed.without (h : c.WellFormed) (j : Nat) : (c.without j).WellFormed :=
  fun r hr => h r (List.mem_of_mem_eraseIdx hr)

theorem Shadows.decidedBy_ne {i j : Nat} (h : c.Shadows i j) (default : Action) :
    (c.trace search msg default).decidedBy ≠ some j := by
  rcases firstApplying_or_none search msg c with ⟨k, r, hfirst⟩ | hnone
  · rw [decidedBy_of_first hfirst]
    exact fun heq => h.ne_of_first hfirst (Option.some.inj heq)
  · rw [decidedBy_of_none hnone]
    exact nofun

theorem Shadows.decidedBy_without {i j : Nat} (h : c.Shadows i j) (default : Action) :
    ((c.without j).trace search msg default).decidedBy =
      (c.trace search msg default).decidedBy.map (placeWithout j) := by
  rcases firstApplying_or_none search msg c with ⟨k, r, hfirst⟩ | hnone
  · rw [decidedBy_of_first hfirst, decidedBy_of_first (hfirst.without (h.ne_of_first hfirst))]
    rfl
  · rw [decidedBy_of_none hnone, decidedBy_of_none (idle_without hnone j)]
    rfl

/-- A rule behind one whose conditions it all has never decides. The chain without it takes the place
of the chain for every message, and the rule that decides is the same one where it then stands. -/
theorem shadowed_never_decides (search : Search) (c : Chain) (i j : Nat) (h : c.Shadows i j)
    (msg : Message) :
    Replaces search msg (c.without j) c ∧
    ∀ default, (c.trace search msg default).decidedBy ≠ some j ∧
      ((c.without j).trace search msg default).decidedBy =
        (c.trace search msg default).decidedBy.map (placeWithout j) := by
  refine ⟨.of_evaluate h.value_evaluate fun hc => hc.without j, fun default => ⟨?_, ?_⟩⟩
  · exact h.decidedBy_ne default
  · exact h.decidedBy_without default

/-- A rule about adverts, one about urgent adverts that comes too late, and a last one. -/
def withShadow : Chain := ⟨[advert, ⟨urgent.conditions ++ advert.conditions, .accept⟩, anything]⟩

/-- The late rule can be left out, and then the last one decides from its place. -/
theorem shadowed_never_decides_withShadow :
    withShadow.Shadows 0 1 ∧ withShadow.without 1 = ⟨[advert, anything]⟩ ∧
      Replaces Regex.search { priority := 5, channelName := "ads" } ⟨[advert, anything]⟩
        withShadow ∧
      (withShadow.trace Regex.search { priority := 5 } .reject).decidedBy = some 2 ∧
      (trace Regex.search ⟨[advert, anything]⟩ { priority := 5 } .reject).decidedBy = some 1 := by
  have hshadows : withShadow.Shadows 0 1 :=
    ⟨Nat.zero_lt_one, _, _, rfl, rfl, by decide⟩
  have hplace : (withShadow.trace Regex.search { priority := 5 } .reject).decidedBy = some 2 := by
    decide +kernel
  obtain ⟨hreplaces, _⟩ := shadowed_never_decides Regex.search withShadow 0 1 hshadows
    { priority := 5, channelName := "ads" }
  obtain ⟨_, hdecided⟩ := shadowed_never_decides Regex.search withShadow 0 1 hshadows
    { priority := 5 }
  have hafter := (hdecided .reject).2
  rw [hplace] at hafter
  exact ⟨hshadows, rfl, hreplaces, hplace, hafter⟩

end Chain

end BroadcastFilter
