import BroadcastFilter.Proofs.Evaluation
import BroadcastFilter.Proofs.Faults
import Mathlib.Data.List.Sort

/-!
Checking strictly on the command line. A configuration that loads has passed the plain check of both
its chains, so a strict check can find nothing in them but rules without conditions. It fails as the
plain check fails where that fails, and otherwise exactly if there is such a rule; then it names the
first of the two filters that has one, with the places of all such rules in it.
-/

namespace BroadcastFilter

namespace Chain

/-- The places are those of the rules without conditions, each once and in order. -/
structure Bares (c : Chain) (places : List Nat) : Prop where
  ascending : places.Pairwise (· < ·)
  mem_iff : ∀ i, i ∈ places ↔ ∃ r, c.rules[i]? = some r ∧ r.conditions = []

variable {c : Chain}

theorem Bares.unique {places others : List Nat} (h : c.Bares places) (h' : c.Bares others) :
    places = others := by
  apply h.ascending.eq_of_mem_iff h'.ascending
  intro i
  rw [h.mem_iff, h'.mem_iff]

theorem Bares.eq_nil_iff {places : List Nat} (h : c.Bares places) :
    places = [] ↔ ∀ r ∈ c.rules, r.conditions ≠ [] := by
  rw [List.eq_nil_iff_forall_not_mem]
  simp only [h.mem_iff]
  constructor
  · intro hnone r hr hbare
    obtain ⟨i, hi⟩ := List.getElem?_of_mem hr
    exact hnone i ⟨r, hi, hbare⟩
  · rintro hall i ⟨r, hi, hbare⟩
    exact hall r (List.mem_of_getElem? hi) hbare

theorem WellFormed.snd_of_mem_faults (h : c.WellFormed) {x : Nat × Rule.Fault}
    (hx : x ∈ c.faults true) : x.2 = .noConditions := by
  obtain ⟨r, hr, hfault⟩ := mem_faults.mp hx
  have hfaults : r.faults = [] := Rule.faults_eq_nil_iff.mpr (h r (List.mem_of_getElem? hr))
  rw [Rule.reported, hfaults, List.nil_append] at hfault
  split at hfault
  · exact List.mem_singleton.mp hfault
  · cases hfault

/-- In a chain that is well formed the strict check finds the rules without conditions alone. -/
theorem WellFormed.exists_bares (h : c.WellFormed) :
    ∃ places, c.Bares places ∧ c.faults true = places.map (·, Rule.Fault.noConditions) := by
  refine ⟨(c.faults true).map Prod.fst, ⟨?_, ?_⟩, ?_⟩
  · rw [List.pairwise_map]
    refine (pairwise_before_faults true c).imp_of_mem ?_
    rintro x y hx hy (hlt | ⟨_, hrank⟩)
    · exact hlt
    · rw [h.snd_of_mem_faults hx, h.snd_of_mem_faults hy] at hrank
      exact absurd hrank (Nat.lt_irrefl _)
  · intro i
    have hbare := (reports_faults true c).bare i
    rw [eq_self, true_and] at hbare
    rw [← hbare, List.mem_map]
    constructor
    · rintro ⟨x, hx, rfl⟩
      rwa [← h.snd_of_mem_faults hx]
    · intro hi
      exact ⟨_, hi, rfl⟩
  · rw [List.map_map]
    symm
    refine (List.map_congr_left fun x hx => ?_).trans (List.map_id _)
    exact Prod.ext rfl (h.snd_of_mem_faults hx).symm

theorem WellFormed.checkStrictly_eq (h : c.WellFormed) :
    ∃ places, c.Bares places ∧ c.checkStrictly =
      if places = [] then .ok () else .error ⟨places.map (·, .noConditions)⟩ := by
  obtain ⟨places, hplaces, hfaults⟩ := h.exists_bares
  refine ⟨places, hplaces, ?_⟩
  rw [checkStrictly, checkWith, hfaults]
  simp only [List.map_eq_nil_iff]

end Chain

namespace Config

/-- The first of the two filters with rules without conditions, and the places of these. -/
inductive FirstBare (c : Config) : String → List Nat → Prop where
  | sender {places : List Nat} (hplaces : c.senderFilter.Bares places)
      (hbare : ∃ r ∈ c.senderFilter.rules, r.conditions = []) : FirstBare c "sender_filter" places
  | receiver {places : List Nat} (hplaces : c.receiverFilter.Bares places)
      (hsender : ∀ r ∈ c.senderFilter.rules, r.conditions ≠ [])
      (hbare : ∃ r ∈ c.receiverFilter.rules, r.conditions = []) :
      FirstBare c "receiver_filter" places

/-- Every rule has a condition. -/
def AllAsk (c : Config) : Prop :=
  ∀ r ∈ c.senderFilter.rules ++ c.receiverFilter.rules, r.conditions ≠ []

theorem FirstBare.unique {c : Config} {part part' : String} {places places' : List Nat}
    (h : c.FirstBare part places) (h' : c.FirstBare part' places') :
    part = part' ∧ places = places' := by
  have hclash {rules : List Rule} (hall : ∀ r ∈ rules, r.conditions ≠ []) :
      ¬ ∃ r ∈ rules, r.conditions = [] := fun ⟨r, hr, hnone⟩ => hall r hr hnone
  cases h with
  | sender hplaces hbare =>
      cases h' with
      | sender hplaces' _ => exact ⟨rfl, hplaces.unique hplaces'⟩
      | receiver _ hsender _ => exact absurd hbare (hclash hsender)
  | receiver hplaces hsender _ =>
      cases h' with
      | sender _ hbare' => exact absurd hbare' (hclash hsender)
      | receiver hplaces' _ _ => exact ⟨rfl, hplaces.unique hplaces'⟩

theorem FirstBare.not_allAsk {c : Config} {part : String} {places : List Nat}
    (h : c.FirstBare part places) : ¬ c.AllAsk := by
  intro hall
  obtain ⟨hsender, hreceiver⟩ := List.forall_mem_append.mp hall
  cases h with
  | sender _ hbare =>
      obtain ⟨r, hr, hnone⟩ := hbare
      exact hsender r hr hnone
  | receiver _ _ hbare =>
      obtain ⟨r, hr, hnone⟩ := hbare
      exact hreceiver r hr hnone

end Config

namespace Command

/-- All that a strict check of a configuration can find once it has passed the plain one. -/
theorem checkStrictly_of_check {c : Config} (h : c.check = .ok ()) :
    (c.AllAsk ∧ checkStrictly c = .ok ()) ∨
      ∃ part places, c.FirstBare part places ∧
        checkStrictly c = .error (.strict part ⟨places.map (·, .noConditions)⟩) := by
  obtain ⟨hsender, hreceiver⟩ := Config.wellFormed_of_check h
  obtain ⟨places, hplaces, hcheck⟩ := hsender.checkStrictly_eq
  obtain ⟨places', hplaces', hcheck'⟩ := hreceiver.checkStrictly_eq
  unfold checkStrictly
  rw [hcheck, hcheck']
  by_cases hnone : places = []
  · have hall := hplaces.eq_nil_iff.mp hnone
    by_cases hnone' : places' = []
    · have hall' := hplaces'.eq_nil_iff.mp hnone'
      rw [if_pos hnone, if_pos hnone']
      exact .inl ⟨List.forall_mem_append.mpr ⟨hall, hall'⟩, rfl⟩
    · have hbare := mt hplaces'.eq_nil_iff.mpr hnone'
      push Not at hbare
      rw [if_pos hnone, if_neg hnone']
      exact .inr ⟨_, places', .receiver hplaces' hall hbare, rfl⟩
  · have hbare := mt hplaces.eq_nil_iff.mpr hnone
    push Not at hbare
    rw [if_neg hnone]
    exact .inr ⟨_, places, .sender hplaces hbare, rfl⟩

theorem checkStrictly_of_firstBare {c : Config} {part : String} {places : List Nat}
    (hcheck : c.check = .ok ()) (hbare : c.FirstBare part places) :
    checkStrictly c = .error (.strict part ⟨places.map (·, .noConditions)⟩) := by
  rcases checkStrictly_of_check hcheck with ⟨hall, _⟩ | ⟨part', places', hbare', hstrict⟩
  · exact absurd hall hbare.not_allAsk
  · obtain ⟨rfl, rfl⟩ := hbare.unique hbare'
    exact hstrict

theorem checkStrictly_of_allAsk {c : Config} (hcheck : c.check = .ok ()) (hall : c.AllAsk) :
    checkStrictly c = .ok () := by
  rcases checkStrictly_of_check hcheck with ⟨_, hstrict⟩ | ⟨_, _, hbare, _⟩
  · exact hstrict
  · exact absurd hall hbare.not_allAsk

theorem on_run_check_strict (search : Search) (files : Files) (path : String) :
    (run search ["check", path, "--strict"]).on files = answering do
      let c ← loadConfig files path
      checkStrictly c
      return "Config valid\n" := by
  have hrun : run search ["check", path, "--strict"] = check [path, "--strict"] := rfl
  have hargs : (Program.ofExcept (checkArguments [path, "--strict"])).on files =
      .silent (.ok (path, true)) := by
    simp [checkArguments]
  rw [hrun, check, Program.on_bind_of_ok hargs]
  refine on_bind_answering (on_readConfig files path) fun c _ => ?_
  refine on_bind_answering (Program.on_ofExcept files (checkStrictly c)) fun _ _ => ?_
  exact Program.on_printText files "Config valid\n"

/-- What a strict check prints of rules without conditions in a part of the configuration. -/
def bareText (part : String) (places : List Nat) : String :=
  "error: " ++ ("config invalid: " ++ part ++ ": " ++
    placedTexts "chain" (places.map (·, "rule has no conditions"))) ++ "\n"

theorem toText_strict (part : String) (places : List Nat) :
    (Failure.strict part ⟨places.map (·, .noConditions)⟩).toText = bareText part places := by
  have hfaults : (ChainFaults.mk (places.map (·, .noConditions))).toText =
      placedTexts "chain" (places.map (·, "rule has no conditions")) := by
    rw [ChainFaults.toText, List.map_map]
    rfl
  exact congrArg (fun text => "error: " ++ ("config invalid: " ++ part ++ ": " ++ text) ++ "\n")
    hfaults

/-- A strict check succeeds exactly if the plain check does and no rule is without conditions. Where
the plain check fails the strict one ends in the same way, with the same error; and where the strict
one alone fails, its error names the first filter that has rules without conditions and the places
of all these, and nothing else. -/
theorem strict_check_asks_conditions (search : Search) (files : Files) (path : String) :
    ((outcome search files ["check", path, "--strict"]).exitCode = 0 ↔
      (outcome search files ["check", path]).exitCode = 0 ∧
        ∀ c, loadConfig files path = .ok c → c.AllAsk) ∧
    ((outcome search files ["check", path]).exitCode ≠ 0 →
      outcome search files ["check", path, "--strict"] = outcome search files ["check", path]) ∧
    ((outcome search files ["check", path]).exitCode = 0 →
      (outcome search files ["check", path, "--strict"]).exitCode ≠ 0 →
      ∃ c part places, loadConfig files path = .ok c ∧ c.FirstBare part places ∧
        (run search ["check", path, "--strict"]).on files =
          .silent (.error (.strict part ⟨places.map (·, .noConditions)⟩)) ∧
        (outcome search files ["check", path, "--strict"]).errors = bareText part places) := by
  have hstrict := on_run_check_strict search files path
  rw [outcome_of_answering (on_run_check search files path), outcome_of_answering hstrict, hstrict]
  cases hload : loadConfig files path with
  | error failure =>
      have hfails : (Outcome.answering (.error failure)).exitCode ≠ 0 := Nat.one_ne_zero
      exact ⟨iff_of_false hfails fun h => hfails h.1, fun _ => rfl, fun h => absurd h hfails⟩
  | ok c =>
      have hplain : (Outcome.answering (.ok "Config valid\n")).exitCode = 0 := rfl
      rcases checkStrictly_of_check (check_of_loadConfig hload) with
        ⟨hall, hcheck⟩ | ⟨part, places, hbare, hcheck⟩
      · simp only [bind, Except.bind, pure, Except.pure, hcheck]
        refine ⟨iff_of_true hplain ⟨hplain, ?_⟩, fun h => absurd hplain h,
          fun _ h => absurd hplain h⟩
        rintro _ ⟨⟩
        exact hall
      · simp only [bind, Except.bind, pure, Except.pure, hcheck]
        refine ⟨iff_of_false Nat.one_ne_zero fun h => ?_, fun h => absurd hplain h, fun _ _ => ?_⟩
        · exact hbare.not_allAsk (h.2 c rfl)
        · exact ⟨c, part, places, rfl, hbare, rfl, toText_strict part places⟩

/-- The receiver filter of this configuration has three rules, and the second alone a condition. -/
def sparse : Config where
  receiverFilter := ⟨[⟨[], .reject⟩, ⟨[{ mode := .any }], .accept⟩, ⟨[], .accept⟩]⟩

def sparseText : String :=
  "receiver_filter:\n- match: []\n  action: reject\n- match:\n  - mode: any\n  action: accept\n" ++
    "- match: []\n  action: accept\n"

/-- That configuration in a file, and no other file. -/
def sparseFiles : Files := fun path => if path = "c" then .ok sparseText else .error .notFound

/-- A file that is not there fails in the same way with both checks. The other file passes the plain
check, and the strict one names two of its rules. -/
theorem strict_check_asks_conditions_sparse :
    (outcome Regex.search sparseFiles ["check", "d", "--strict"] =
        outcome Regex.search sparseFiles ["check", "d"]) ∧
      (outcome Regex.search sparseFiles ["check", "c"]).exitCode = 0 ∧
      (outcome Regex.search sparseFiles ["check", "c", "--strict"]).exitCode ≠ 0 ∧
      (outcome Regex.search sparseFiles ["check", "c", "--strict"]).errors =
        bareText "receiver_filter" [0, 2] := by
  obtain ⟨_, hmissing, _⟩ := strict_check_asks_conditions Regex.search sparseFiles "d"
  obtain ⟨hstrict, _, hnames⟩ := strict_check_asks_conditions Regex.search sparseFiles "c"
  have hread : Config.ofText .yaml sparseText = .ok sparse := by decide +kernel
  have hformat : Config.formatOf "c" = .yaml := rfl
  have hload : loadConfig sparseFiles "c" = .ok sparse := by
    simp only [loadConfig, configOf, sparseFiles, if_true, Config.ofRead, hformat, hread]
    rfl
  have hplain : (outcome Regex.search sparseFiles ["check", "c"]).exitCode = 0 :=
    (exitCode_check_eq_zero_iff ..).mpr ⟨_, hload⟩
  have hbares : sparse.receiverFilter.Bares [0, 2] := by
    have hformed : sparse.receiverFilter.WellFormed := Chain.check_eq_ok_iff.mp (by decide)
    obtain ⟨places, hplaces, hfaults⟩ := hformed.exists_bares
    have hsame := congrArg (List.map Prod.fst) hfaults
    simp only [List.map_map, Function.comp_def, List.map_id'] at hsame
    rwa [← hsame] at hplaces
  have hfails : (outcome Regex.search sparseFiles ["check", "c", "--strict"]).exitCode ≠ 0 := by
    rw [ne_eq, hstrict]
    rintro ⟨_, hall⟩
    exact hall sparse hload ⟨[], .reject⟩ (by decide) rfl
  refine ⟨hmissing (by decide +kernel), hplain, hfails, ?_⟩
  obtain ⟨c, part, places, hc, hbare, _, htext⟩ := hnames hplain hfails
  obtain rfl : sparse = c := Except.ok.inj (hload.symm.trans hc)
  cases hbare with
  | sender _ hsender => exact absurd hsender (by decide)
  | receiver hplaces _ _ => rw [htext, hplaces.unique hbares]

end Command

end BroadcastFilter
