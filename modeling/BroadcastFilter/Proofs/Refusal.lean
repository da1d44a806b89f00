import BroadcastFilter.Proofs.Delivery
import BroadcastFilter.Proofs.Faults

/-!
When making ready fails. A match and a chain are refused exactly where their checks refuse them, and
with the error of the check. Making ready has errors of its own, for a slot that is missing, for a
mode that is not known and for the first match of a chain that is refused; after the check none of
them comes up, because the slot that a mode asks for is the one that the check has found filled.
-/

namespace BroadcastFilter

namespace Condition

theorem compile_of_fault (search : Search) {m : Match} {fault : Match.Fault}
    (h : m.check = .error fault) : compile search m = ⟨.error fault, []⟩ := by
  simp only [compile, h, pure]

/-- A match is refused as its check refuses it. -/
theorem value_compile_eq_error_iff {search : Search} {m : Match} {fault : Match.Fault} :
    (compile search m).value = .error fault ↔ m.check = .error fault := by
  cases hcheck : m.check with
  | error e =>
      rw [compile_of_fault search hcheck, Except.error.injEq, Except.error.injEq]
  | ok _ =>
      have hformed := Match.check_eq_ok_iff.mp hcheck
      obtain ⟨cond, hcond, _⟩ := compile_of_wellFormed search hformed
      rw [hcond]
      exact iff_of_false nofun nofun

/-- What has passed its check lacks nothing that its mode asks for. -/
theorem exists_value_ofChecked (search : Search) {m : Match} (h : m.check = .ok ()) :
    ∃ cond, (ofChecked search m).value = .ok cond := by
  obtain ⟨cond, hcond, _⟩ := ofChecked_of_wellFormed search (Match.check_eq_ok_iff.mp h)
  exact ⟨cond, by rw [hcond]⟩

end Condition

namespace Filter

variable {search : Search} {c : Chain}

/-- A chain is refused as its check refuses it, with all faults. -/
theorem value_compile_eq_error_iff {faults : ChainFaults} :
    (compile search c).value = .error faults ↔ c.check = .error faults := by
  cases hcheck : c.check with
  | error e =>
      rw [compile_of_faults search hcheck, Except.error.injEq, Except.error.injEq]
  | ok _ =>
      have hformed := Chain.check_eq_ok_iff.mp hcheck
      obtain ⟨f, hf, _⟩ := compile_of_wellFormed search hformed
      rw [hf]
      exact iff_of_false nofun nofun

theorem exists_value_compile_iff :
    (∃ f, (compile search c).value = .ok f) ↔ c.check = .ok () := by
  constructor
  · rintro ⟨f, hf⟩
    exact Chain.check_eq_ok_iff.mpr (compile_eq_ok hf).1
  · intro hcheck
    obtain ⟨f, hf, _⟩ := compile_of_wellFormed search (Chain.check_eq_ok_iff.mp hcheck)
    exact ⟨f, by rw [hf]⟩

theorem exists_value_compileMatches (search : Search) (hcheck : c.check = .ok ())
    {r : BroadcastFilter.Rule} (hr : r ∈ c.rules) (index : Nat) :
    ∃ conds, (compileMatches search index r.conditions).value = .ok conds := by
  have hformed := Chain.check_eq_ok_iff.mp hcheck r hr
  obtain ⟨conds, hconds, _⟩ := compileMatches_of_wellFormed search hformed.conditions index
  exact ⟨conds, by rw [hconds]⟩

theorem exists_value_compileRules (search : Search) (hcheck : c.check = .ok ()) (index : Nat) :
    ∃ rules, (compileRules search index c.rules).value = .ok rules := by
  obtain ⟨rules, hrules, _⟩ :=
    compileRules_of_wellFormed search (Chain.check_eq_ok_iff.mp hcheck) index
  exact ⟨rules, by rw [hrules]⟩

theorem isRecognized_of_mem {f : Filter} (h : (compile search c).value = .ok f) {r : Rule}
    (hr : r ∈ f.rules) : r.action.isRecognized = true := by
  obtain ⟨hformed, hcarries⟩ := compile_eq_ok h
  obtain ⟨written, hwritten, hrule⟩ := exists_left_of_forall₂ hcarries hr
  rw [hrule.action]
  exact (hformed written hwritten).action

/-- A match is refused exactly as its check refuses it, and so is a chain, with the whole list of
its faults. Once the check has passed, every further step of making a match, a list of matches or a
list of rules ready succeeds, and each rule of the filter accepts or rejects. -/
theorem compile_fails_as_check (search : Search) :
    (∀ m fault, (Condition.compile search m).value = .error fault ↔ m.check = .error fault) ∧
    (∀ c faults, (compile search c).value = .error faults ↔ c.check = .error faults) ∧
    (∀ m : Match, m.check = .ok () → ∃ cond, (Condition.ofChecked search m).value = .ok cond) ∧
    (∀ c : Chain, c.check = .ok () →
      (∀ r ∈ c.rules, ∀ index,
        ∃ conds, (compileMatches search index r.conditions).value = .ok conds) ∧
      ∀ index, ∃ rules, (compileRules search index c.rules).value = .ok rules) ∧
    ∀ c f, (compile search c).value = .ok f →
      ∀ r ∈ f.rules, r.action = .accept ∨ r.action = .reject := by
  refine ⟨?_, ?_, ?_, ?_, ?_⟩
  · intro m fault
    exact Condition.value_compile_eq_error_iff
  · intro c faults
    exact value_compile_eq_error_iff
  · intro m hcheck
    exact Condition.exists_value_ofChecked search hcheck
  · intro c hcheck
    refine ⟨fun r hr index => ?_, fun index => ?_⟩
    · exact exists_value_compileMatches search hcheck hr index
    · exact exists_value_compileRules search hcheck index
  · intro c f hcompile r hr
    exact Action.isRecognized_iff.mp (isRecognized_of_mem hcompile hr)

/-- A chain with faults in two rules is refused with all of them. The sender filter of a new user is
made ready, and its first rule, taken by itself as the seventh of some chain, could be too. -/
theorem compile_fails_as_check_withFaults :
    (compile Regex.search Chain.withFaults).value = .error ⟨Chain.withFaults.faults false⟩ ∧
      (∃ cond, (Condition.ofChecked Regex.search { mode := .any }).value = .ok cond) ∧
      (∃ conds, (compileMatches Regex.search 7
        [{ mode := .userName, userName := some "my_server" },
          { mode := .messageText, regex := true,
            messageText := some "^\\[(INFO|DEBUG)\\]" }]).value = .ok conds) ∧
      ∃ f, (compile Regex.search Config.starter.senderFilter).value = .ok f ∧
        ∃ r ∈ f.rules, r.action = .accept ∨ r.action = .reject := by
  obtain ⟨_, hchain, hmatch, hrules, hactions⟩ := compile_fails_as_check Regex.search
  have hfaulty : Chain.withFaults.check = .error ⟨Chain.withFaults.faults false⟩ := by decide
  have hcheck : Config.starter.senderFilter.check = .ok () := by decide
  obtain ⟨f, hf⟩ : ∃ f, (compile Regex.search Config.starter.senderFilter).value = .ok f :=
    exists_value_compile_iff.mpr hcheck
  obtain ⟨_, hcarries⟩ := compile_eq_ok hf
  have hlength : f.rules.length = 3 := hcarries.length_eq.symm
  obtain ⟨r, hr⟩ : ∃ r, r ∈ f.rules := List.exists_mem_of_length_pos (by omega)
  refine ⟨(hchain _ _).mpr hfaulty, hmatch _ (by decide), ?_, f, hf, r, hr, hactions _ f hf r hr⟩
  exact (hrules _ hcheck).1 _ (List.mem_cons_self ..) 7

end Filter

end BroadcastFilter
