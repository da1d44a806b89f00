import BroadcastFilter.Proofs.WellFormed
import Mathlib.Data.List.Basic

/-!
What the checks report. A check goes through all rules and all their matches and leaves nothing out:
its list has the action of a rule if that is unknown, then the places and faults of all its matches
that are not well formed, then, in the strict check, that it has no conditions; and all this in the
order of the rules. Dropping adjacent repeats from the places in such a list is enough to get each
faulty place once, because the list is in order.
-/

namespace BroadcastFilter

/-- The places in a list stand in ascending order beside its entries. -/
theorem pairwise_snd_zipIdx {A : Type} (as : List A) :
    as.zipIdx.Pairwise fun x y => x.2 < y.2 := by
  rw [← List.pairwise_map (f := Prod.snd) (R := (· < ·)), List.zipIdx_map_snd]
  exact List.pairwise_lt_range'

namespace ChainFaults

theorem mem_dropRepeats {a : Nat} {places : List Nat} :
    a ∈ dropRepeats places ↔ a ∈ places := by
  fun_induction dropRepeats places with
  | case1 b rest ih => simp [ih]
  | case2 b c rest hne ih => simp [ih]
  | case3 few _ => rfl

/-- In ascending order, equal places are adjacent. -/
theorem pairwise_dropRepeats {places : List Nat} (h : places.Pairwise (· ≤ ·)) :
    (dropRepeats places).Pairwise (· < ·) := by
  fun_induction dropRepeats places with
  | case1 b rest ih => exact ih h.of_cons
  | case2 b c rest hne ih =>
      obtain ⟨hleast, hrest⟩ := List.pairwise_cons.mp h
      refine List.pairwise_cons.mpr ⟨fun d hd => ?_, ih hrest⟩
      have hbc : b < c := Nat.lt_of_le_of_ne (hleast c (by simp)) hne
      rcases List.mem_cons.mp (mem_dropRepeats.mp hd) with rfl | hd
      · exact hbc
      · exact Nat.lt_of_lt_of_le hbc (List.rel_of_pairwise_cons hrest hd)
  | case3 few hfew =>
      match few with
      | [] => exact List.Pairwise.nil
      | [b] => exact List.pairwise_singleton _ b
      | b :: c :: rest => exact absurd rfl (hfew b c rest)

end ChainFaults

namespace Match

/-- The list has the faults of the matches, each with the place of its match, and nothing else, in
the order of the places. -/
structure Reports (ms : List Match) (faults : List (Nat × Fault)) : Prop where
  mem_iff : ∀ place fault,
    (place, fault) ∈ faults ↔ ∃ m, ms[place]? = some m ∧ m.check = .error fault
  ascending : faults.Pairwise fun x y => x.1 < y.1

/-- An entry for a match stands for the place of the match. -/
theorem fst_of_mem_entry {placed : Match × Nat} {entry : Nat × Fault}
    (h : (match placed.1.check with
      | .ok () => none
      | .error fault => some (placed.2, fault)) = some entry) : entry.1 = placed.2 := by
  split at h
  · cases h
  · cases h
    rfl

theorem reports_faultsOf (ms : List Match) : Reports ms (faultsOf ms) where
  mem_iff place fault := by
    simp only [faultsOf, List.mem_filterMap, Prod.exists, List.mk_mem_zipIdx_iff_getElem?]
    constructor
    · rintro ⟨m, index, hm, hfault⟩
      cases hcheck : m.check with
      | ok _ => simp [hcheck] at hfault
      | error e =>
          simp only [hcheck, Option.some.injEq, Prod.mk.injEq] at hfault
          obtain ⟨rfl, rfl⟩ := hfault
          exact ⟨m, hm, hcheck⟩
    · rintro ⟨m, hm, hcheck⟩
      exact ⟨m, place, hm, by rw [hcheck]⟩
  ascending := by
    refine List.pairwise_filterMap.mpr ((pairwise_snd_zipIdx ms).imp ?_)
    intro x y hlt e he e' he'
    rw [fst_of_mem_entry he, fst_of_mem_entry he']
    exact hlt

/-- The check of a list of matches fails if one of them does, and tells all that do. -/
theorem checkAll_eq_error_iff {ms : List Match} {faults : MatchFaults} :
    checkAll ms = .error faults ↔
      (∃ m ∈ ms, m.check ≠ .ok ()) ∧ faults = ⟨faultsOf ms⟩ := by
  have hfaulty : faultsOf ms ≠ [] ↔ ∃ m ∈ ms, m.check ≠ .ok () := by
    rw [ne_eq, faultsOf_eq_nil_iff]
    push Not
    rfl
  rw [← hfaulty]
  unfold checkAll
  split
  next hnone => simp [hnone]
  next hsome => simp [hsome, eq_comm]

end Match

namespace Rule

/-- The rule has a known action and matches that pass their checks; for the strict check it also has
a match. -/
structure Sound (strict : Bool) (r : Rule) : Prop where
  action : r.action = .accept ∨ r.action = .reject
  conditions : ∀ m ∈ r.conditions, m.check = .ok ()
  bare : strict = true → r.conditions ≠ []

/-- The place of a fault among the faults of its rule. -/
def Fault.rank : Fault → Nat
  | .invalidAction _ => 0
  | .conditions _ => 1
  | .noConditions => 2

/-- The faults of a rule as a check reports them. -/
def reported (strict : Bool) (r : Rule) : List Fault :=
  r.faults ++ if strict && r.conditions.isEmpty then [.noConditions] else []

variable {strict : Bool} {r : Rule}

theorem faults_eq (r : Rule) :
    r.faults =
      (match r.action with
        | .unrecognized word => [Fault.invalidAction word]
        | _ => []) ++
      (match Match.checkAll r.conditions with
        | .ok () => []
        | .error faults => [.conditions faults]) := by
  unfold faults
  cases r.action <;> rfl

theorem invalidAction_mem_reported {word : String} :
    .invalidAction word ∈ r.reported strict ↔ r.action = .unrecognized word := by
  rw [reported, faults_eq]
  cases r.action with
  | accept => cases Match.checkAll r.conditions <;> simp
  | reject => cases Match.checkAll r.conditions <;> simp
  | unrecognized w => cases Match.checkAll r.conditions <;> simp [eq_comm (a := w)]

theorem conditions_mem_reported {set : MatchFaults} :
    .conditions set ∈ r.reported strict ↔ Match.checkAll r.conditions = .error set := by
  rw [reported, faults_eq]
  cases Match.checkAll r.conditions with
  | ok _ => cases r.action <;> simp
  | error faults => cases r.action <;> simp [eq_comm (a := faults)]

theorem noConditions_mem_reported :
    .noConditions ∈ r.reported strict ↔ strict = true ∧ r.conditions = [] := by
  rw [reported, faults_eq]
  cases r.action <;> cases Match.checkAll r.conditions <;> simp

/-- A rule has at most one fault of each kind. -/
theorem pairwise_rank_reported (strict : Bool) (r : Rule) :
    (r.reported strict).Pairwise fun x y => x.rank < y.rank := by
  rw [reported, faults_eq]
  cases strict && r.conditions.isEmpty <;> cases r.action <;>
    cases Match.checkAll r.conditions <;> simp [Fault.rank]

theorem reported_eq_nil_iff : r.reported strict = [] ↔ r.Sound strict := by
  rw [reported, List.append_eq_nil_iff, faults_eq_nil_iff]
  constructor
  · rintro ⟨hformed, hbare⟩
    refine ⟨?_, fun m hm => Match.check_eq_ok_iff.mpr (hformed.conditions m hm), ?_⟩
    · have haction := hformed.action
      cases h : r.action <;> simp_all [Action.isRecognized]
    · intro hstrict
      simpa [hstrict] using hbare
  · rintro ⟨haction, hconditions, hbare⟩
    refine ⟨⟨?_, fun m hm => Match.check_eq_ok_iff.mp (hconditions m hm)⟩, ?_⟩
    · rcases haction with h | h <;> rw [h] <;> rfl
    · simpa using hbare

end Rule

namespace Chain

/-- One fault comes before another if its rule does or, in the same rule, its kind. -/
def Before (x y : Nat × Rule.Fault) : Prop := x.1 < y.1 ∨ x.1 = y.1 ∧ x.2.rank < y.2.rank

/-- The list has every fault of the chain with the place of its rule, and nothing else: an action
that is not known as it was written, the faults of all matches, and in the strict check that there
are none. It is in order, so no fault stands in it twice. -/
structure Reports (strict : Bool) (c : Chain) (faults : List (Nat × Rule.Fault)) : Prop where
  action : ∀ i word, (i, .invalidAction word) ∈ faults ↔
    ∃ r, c.rules[i]? = some r ∧ r.action = .unrecognized word
  conditions : ∀ i, (∃ set, (i, .conditions set) ∈ faults) ↔
    ∃ r, c.rules[i]? = some r ∧ ∃ m ∈ r.conditions, m.check ≠ .ok ()
  places : ∀ i set, (i, .conditions set) ∈ faults →
    ∃ r, c.rules[i]? = some r ∧ Match.Reports r.conditions set.faults
  bare : ∀ i, (i, .noConditions) ∈ faults ↔
    strict = true ∧ ∃ r, c.rules[i]? = some r ∧ r.conditions = []
  ordered : faults.Pairwise Before

variable {strict : Bool} {c : Chain}

theorem mem_faults {i : Nat} {fault : Rule.Fault} :
    (i, fault) ∈ c.faults strict ↔ ∃ r, c.rules[i]? = some r ∧ fault ∈ r.reported strict := by
  unfold faults
  constructor
  · intro h
    obtain ⟨⟨r, place⟩, hr, hfault⟩ := List.mem_flatMap.mp h
    obtain ⟨fault', hmem, heq⟩ := List.mem_map.mp hfault
    cases heq
    exact ⟨r, List.mk_mem_zipIdx_iff_getElem?.mp hr, hmem⟩
  · rintro ⟨r, hr, hfault⟩
    exact List.mem_flatMap.mpr
      ⟨(r, i), List.mk_mem_zipIdx_iff_getElem?.mpr hr, List.mem_map.mpr ⟨fault, hfault, rfl⟩⟩

theorem pairwise_before_faults (strict : Bool) (c : Chain) :
    (c.faults strict).Pairwise Before := by
  unfold faults
  refine List.pairwise_flatMap.mpr ⟨?_, ?_⟩
  · rintro ⟨r, i⟩ _
    refine (r.pairwise_rank_reported strict).map (i, ·) ?_
    intro x y hrank
    exact .inr ⟨rfl, hrank⟩
  · refine (pairwise_snd_zipIdx c.rules).imp ?_
    rintro ⟨r, i⟩ ⟨r', j⟩ hlt x hx y hy
    obtain ⟨_, _, rfl⟩ := List.mem_map.mp hx
    obtain ⟨_, _, rfl⟩ := List.mem_map.mp hy
    exact .inl hlt

theorem reports_faults (strict : Bool) (c : Chain) : Reports strict c (c.faults strict) where
  action i word := by
    simp only [mem_faults, Rule.invalidAction_mem_reported]
  conditions i := by
    simp only [mem_faults, Rule.conditions_mem_reported, Match.checkAll_eq_error_iff]
    constructor
    · rintro ⟨_, r, hr, hfaulty, rfl⟩
      exact ⟨r, hr, hfaulty⟩
    · rintro ⟨r, hr, hfaulty⟩
      exact ⟨_, r, hr, hfaulty, rfl⟩
  places i set h := by
    obtain ⟨r, hr, hset⟩ := mem_faults.mp h
    obtain ⟨_, rfl⟩ := Match.checkAll_eq_error_iff.mp (Rule.conditions_mem_reported.mp hset)
    exact ⟨r, hr, Match.reports_faultsOf r.conditions⟩
  bare i := by
    simp only [mem_faults, Rule.noConditions_mem_reported]
    constructor
    · rintro ⟨r, hr, hstrict, hnone⟩
      exact ⟨hstrict, r, hr, hnone⟩
    · rintro ⟨hstrict, r, hr, hnone⟩
      exact ⟨r, hr, hstrict, hnone⟩
  ordered := pairwise_before_faults strict c

/-- The places are those of the rules at fault, each once and in order. -/
structure Locates (strict : Bool) (c : Chain) (places : List Nat) : Prop where
  ascending : places.Pairwise (· < ·)
  mem_iff : ∀ i, i ∈ places ↔ ∃ r, c.rules[i]? = some r ∧ ¬ r.Sound strict

theorem locates_indices (strict : Bool) (c : Chain) :
    Locates strict c (ChainFaults.indices ⟨c.faults strict⟩) where
  ascending := by
    apply ChainFaults.pairwise_dropRepeats
    refine (pairwise_before_faults strict c).map Prod.fst ?_
    rintro x y (hlt | ⟨heq, _⟩)
    · exact Nat.le_of_lt hlt
    · exact Nat.le_of_eq heq
  mem_iff i := by
    have hfaulty (r : Rule) : ¬ r.Sound strict ↔ ∃ fault, fault ∈ r.reported strict := by
      rw [← Rule.reported_eq_nil_iff, List.eq_nil_iff_forall_not_mem]
      push Not
      rfl
    simp only [ChainFaults.indices, ChainFaults.mem_dropRepeats, List.mem_map, Prod.exists,
      exists_and_right, exists_eq_right, mem_faults, hfaulty]
    constructor
    · rintro ⟨fault, r, hr, hmem⟩
      exact ⟨r, hr, fault, hmem⟩
    · rintro ⟨r, hr, fault, hmem⟩
      exact ⟨fault, r, hr, hmem⟩

theorem checkWith_eq_ok_iff_sound :
    c.checkWith strict = .ok () ↔ ∀ r ∈ c.rules, r.Sound strict := by
  rw [checkWith_eq_ok_iff, faults, List.flatMap_eq_nil_iff]
  have hrule (r : Rule) (i : Nat) : (r.reported strict).map (i, ·) = [] ↔ r.Sound strict := by
    rw [List.map_eq_nil_iff, Rule.reported_eq_nil_iff]
  constructor
  · intro h r hr
    obtain ⟨i, hi⟩ := List.getElem?_of_mem hr
    exact (hrule r i).mp (h (r, i) (List.mk_mem_zipIdx_iff_getElem?.mpr hi))
  · rintro h ⟨r, i⟩ hr
    exact (hrule r i).mpr (h r (List.fst_mem_of_mem_zipIdx hr))

theorem checkWith_eq_error_iff {e : ChainFaults} :
    c.checkWith strict = .error e ↔ c.checkWith strict ≠ .ok () ∧ e = ⟨c.faults strict⟩ := by
  rw [ne_eq, checkWith_eq_ok_iff]
  unfold checkWith
  split
  next hnone => simp [hnone]
  next hsome => simp [hsome, eq_comm]

/-- The strict check adds its own kind of fault and nothing else. -/
theorem filter_faults_strict (c : Chain) :
    (c.faults true).filter (fun x => x.2 ≠ .noConditions) = c.faults false := by
  unfold faults
  rw [List.filter_flatMap]
  refine List.flatMap_congr ?_
  rintro ⟨r, i⟩ _
  have hplain : (r.reported true).filter (fun x => x ≠ .noConditions) = r.reported false := by
    simp only [Rule.reported, List.filter_append, Bool.true_and, Bool.false_and]
    rw [List.filter_eq_self.mpr, List.filter_eq_nil_iff.mpr]
    · rfl
    · intro x hx
      split at hx
      · simpa using hx
      · simp at hx
    · intro x hx
      have : x ∈ r.reported false := by simpa [Rule.reported] using hx
      cases x with
      | noConditions => simp [Rule.noConditions_mem_reported] at this
      | _ => simp
  calc ((r.reported true).map (i, ·)).filter (fun x => x.2 ≠ .noConditions)
      = ((r.reported true).filter (fun x => x ≠ .noConditions)).map (i, ·) := by
        rw [List.filter_map]
        rfl
    _ = (r.reported false).map (i, ·) := by rw [hplain]

/-- What a check has found. -/
def found : Except ChainFaults Unit → List (Nat × Rule.Fault)
  | .ok () => []
  | .error e => e.faults

theorem found_checkWith (strict : Bool) (c : Chain) :
    found (c.checkWith strict) = c.faults strict := by
  unfold checkWith
  split
  next hnone => exact hnone.symm
  next => rfl

/-- A check passes if every rule is sound, and reports all faults of all rules otherwise, each once
and in order, with the places of the rules at fault. The strict check passes if the plain one does
and no rule is without conditions; what it has found is what the plain one finds and, for each rule
without conditions, that this is so. -/
theorem checks_report (c : Chain) :
    (c.check = .ok () ↔ ∀ r ∈ c.rules,
      (r.action = .accept ∨ r.action = .reject) ∧ ∀ m ∈ r.conditions, m.check = .ok ()) ∧
    (c.checkStrictly = .ok () ↔ c.check = .ok () ∧ ∀ r ∈ c.rules, r.conditions ≠ []) ∧
    (∀ e, c.check = .error e → Reports false c e.faults ∧ Locates false c e.indices) ∧
    (∀ e, c.checkStrictly = .error e → Reports true c e.faults ∧ Locates true c e.indices) ∧
    (found c.checkStrictly).filter (fun x => x.2 ≠ .noConditions) = found c.check := by
  have hplain (r : Rule) : r.Sound false ↔
      (r.action = .accept ∨ r.action = .reject) ∧ ∀ m ∈ r.conditions, m.check = .ok () :=
    ⟨fun h => ⟨h.action, h.conditions⟩, fun h => ⟨h.1, h.2, nofun⟩⟩
  have hstrict (r : Rule) : r.Sound true ↔ r.Sound false ∧ r.conditions ≠ [] :=
    ⟨fun h => ⟨⟨h.action, h.conditions, nofun⟩, h.bare rfl⟩,
      fun h => ⟨h.1.action, h.1.conditions, fun _ => h.2⟩⟩
  have herror (strict : Bool) (e : ChainFaults) (h : c.checkWith strict = .error e) :
      Reports strict c e.faults ∧ Locates strict c e.indices := by
    obtain ⟨_, rfl⟩ := checkWith_eq_error_iff.mp h
    exact ⟨reports_faults strict c, locates_indices strict c⟩
  refine ⟨?_, ?_, herror false, herror true, ?_⟩
  · simp only [check, checkWith_eq_ok_iff_sound, hplain]
  · simp only [check, checkStrictly, checkWith_eq_ok_iff_sound, hstrict]
    exact forall₂_and
  · rw [check, checkStrictly, found_checkWith, found_checkWith, filter_faults_strict]

/-- A sound rule, one with an unknown action and two bad matches around a good one, and one without
conditions. -/
def withFaults : Chain :=
  ⟨[⟨[{ mode := .any }], .accept⟩,
    ⟨[{ mode := .isAdmin }, { mode := .any }, { mode := .userId, userId := some 0 }],
      .unrecognized "drop"⟩,
    ⟨[], .reject⟩]⟩

/-- Both checks of such a chain fail. The plain one finds two faults at one place, and the strict
one finds those and a third. -/
theorem checks_report_withFaults :
    ∃ e strict, withFaults.check = .error e ∧ withFaults.checkStrictly = .error strict ∧
      Reports false withFaults e.faults ∧ Reports true withFaults strict.faults ∧
      e.indices = [1] ∧ strict.indices = [1, 2] ∧
      (1, .invalidAction "drop") ∈ e.faults ∧
      (1, .conditions ⟨[(0, .missing .isAdmin), (2, .missing .userId)]⟩) ∈ e.faults := by
  obtain ⟨_, _, hplain, hstrict, _⟩ := checks_report withFaults
  have hcheck : withFaults.check = .error ⟨withFaults.faults false⟩ := by decide
  have hcheckStrictly : withFaults.checkStrictly = .error ⟨withFaults.faults true⟩ := by decide
  refine ⟨_, _, hcheck, hcheckStrictly, (hplain _ hcheck).1, (hstrict _ hcheckStrictly).1, ?_⟩
  decide

end Chain

end BroadcastFilter
