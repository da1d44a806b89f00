import BroadcastFilter.Proofs.Evaluation
import BroadcastFilter.Proofs.Refusal

/-!
What the log is told of making ready and of loading. A chain that is refused is refused in silence;
one that becomes a filter tells of every pattern that does not compile, in the order of the
conditions and each as often as it is asked for, and then that the filter is there. A configuration
is rejected with one event, or made ready with the events of its two chains. Loading has four
outcomes, each with its own events.
-/

namespace BroadcastFilter

/-- The pattern of a match in a text mode that is a regular expression and does not compile. -/
def Match.refused? (search : Search) (m : Match) : Option String :=
  if m.regex then m.patternText.filter fun text => (search text).isNone else none

theorem Match.refusals_eq (search : Search) (m : Match) :
    m.refusals search = (m.refused? search).toList.map .patternRefused := by
  unfold refusals refused?
  cases m.patternText with
  | none => simp
  | some text =>
      rw [Option.elim_some, Pattern.events_ofText]
      cases m.regex with
      | false => rfl
      | true => cases hsearch : search text <;> simp [Option.filter, hsearch]

theorem Rule.refusals_eq (search : Search) (r : Rule) :
    r.refusals search = (r.conditions.filterMap (·.refused? search)).map .patternRefused := by
  rw [refusals, List.filterMap_eq_flatMap_toList, List.map_flatMap]
  exact List.flatMap_congr fun m _ => m.refusals_eq search

/-- The patterns of a chain that do not compile, in the order of its rules and their conditions. -/
def Chain.refused (search : Search) (c : Chain) : List String :=
  (c.rules.flatMap (·.conditions)).filterMap (·.refused? search)

theorem Chain.flatMap_refusals (search : Search) (c : Chain) :
    c.rules.flatMap (·.refusals search) = (c.refused search).map .patternRefused := by
  rw [refused, List.filterMap_flatMap, List.map_flatMap]
  exact List.flatMap_congr fun r _ => r.refusals_eq search

namespace Filter

variable {search : Search} {c : Chain}

theorem events_compile_of_error {faults : ChainFaults}
    (h : (compile search c).value = .error faults) : (compile search c).events = [] := by
  rw [compile_of_faults search (value_compile_eq_error_iff.mp h)]

theorem events_compile_of_ok {f : Filter} (h : (compile search c).value = .ok f) :
    (compile search c).events =
      (c.refused search).map .patternRefused ++ [.filterCompiled c.rules.length] := by
  obtain ⟨f', hf', hcarries⟩ := compile_of_wellFormed search (compile_eq_ok h).1
  rw [hf', c.flatMap_refusals, hcarries.length_eq]

end Filter

namespace Config

variable {search : Search} {c : Config}

theorem compile_of_rejected {e : Error} (h : c.validate.value = .error e) :
    c.compile search = ⟨.error e, [.configRejected e.toText]⟩ := by
  rw [value_validate] at h
  exact compile_of_error search h

theorem events_compile_of_accepted (h : c.validate.value = .ok ()) :
    (c.compile search).events =
      (Filter.compile search c.senderFilter).events ++
        (Filter.compile search c.receiverFilter).events := by
  rw [value_validate] at h
  obtain ⟨_, _, hcompile, _⟩ := compile_of_check search h
  rw [hcompile]

theorem validate_of_ok (h : c.validate.value = .ok ()) : c.validate = ⟨.ok (), []⟩ := by
  rw [value_validate] at h
  simp only [validate, h, pure]

theorem validate_of_error {e : Error} (h : c.validate.value = .error e) :
    c.validate = ⟨.error e, [.configRejected e.toText]⟩ := by
  rw [value_validate] at h
  simp only [validate, h, bind, pure, Logged.tell, List.append_nil]

/-- The outcomes of loading the file at a path, with what the log is told. -/
inductive Loads (files : Files) (path : String) : Logged (Except Error Config) → Prop where
  | unreadable {fault : ReadFault} (hfile : files path = .error fault) :
      Loads files path ⟨.error (.unreadable path fault), []⟩
  | malformed {text : String} {e : Error} (hfile : files path = .ok text)
      (htext : ofText (formatOf path) text = .error e) : Loads files path ⟨.error e, []⟩
  | rejected {text : String} {c : Config} {e : Error} (hfile : files path = .ok text)
      (htext : ofText (formatOf path) text = .ok c) (hinvalid : c.validate.value = .error e) :
      Loads files path ⟨.error e, [.configRejected e.toText]⟩
  | loaded {text : String} {c : Config} (hfile : files path = .ok text)
      (htext : ofText (formatOf path) text = .ok c) (hvalid : c.validate.value = .ok ()) :
      Loads files path ⟨.ok c, [.configLoaded path c.channels.length
        c.senderFilter.rules.length c.receiverFilter.rules.length]⟩

variable {files : Files} {path : String}

theorem exists_loads (files : Files) (path : String) : ∃ v, Loads files path v := by
  cases hfile : files path with
  | error fault => exact ⟨_, .unreadable hfile⟩
  | ok text =>
      cases htext : ofText (formatOf path) text with
      | error e => exact ⟨_, .malformed hfile htext⟩
      | ok c =>
          cases hcheck : c.validate.value with
          | error e => exact ⟨_, .rejected hfile htext hcheck⟩
          | ok _ => exact ⟨_, .loaded hfile htext hcheck⟩

theorem Loads.load_eq {v : Logged (Except Error Config)} (h : Loads files path v) :
    load files path = v := by
  cases h with
  | unreadable hfile => simp only [load, ofRead, hfile, pure]
  | malformed hfile htext => simp only [load, ofRead, hfile, htext, pure]
  | rejected hfile htext hinvalid =>
      simp only [load, ofRead, hfile, htext, validate_of_error hinvalid, bind, pure,
        List.append_nil]
  | loaded hfile htext hvalid =>
      simp only [load, ofRead, hfile, htext, validate_of_ok hvalid, bind, pure, Logged.tell,
        List.append_nil, List.nil_append]

theorem load_eq_iff {v : Logged (Except Error Config)} :
    load files path = v ↔ Loads files path v := by
  constructor
  · rintro rfl
    obtain ⟨v, hv⟩ := exists_loads files path
    rw [hv.load_eq]
    exact hv
  · exact Loads.load_eq

/-- Making a chain ready tells nothing if it fails; if it succeeds, one event for each condition of
a text mode whose regular expression does not compile, in order, and then one for the filter with
the number of its rules. A configuration that does not pass its check is rejected with one event,
which carries the error, and otherwise the events are those of its sender filter and then of its
receiver filter. Loading a file has its four outcomes and no other: nothing is told where the file
cannot be read or holds no configuration, one event where the configuration is rejected, and one
with the path and the three numbers where it is loaded. What is loaded passes its check again and
can be made ready. -/
theorem logs_problems_once (search : Search) :
    (∀ c faults, (Filter.compile search c).value = .error faults →
      (Filter.compile search c).events = []) ∧
    (∀ c f, (Filter.compile search c).value = .ok f →
      (Filter.compile search c).events =
        (c.refused search).map .patternRefused ++ [.filterCompiled c.rules.length]) ∧
    (∀ (c : Config) e, c.validate.value = .error e →
      c.compile search = ⟨.error e, [.configRejected e.toText]⟩) ∧
    (∀ c : Config, c.validate.value = .ok () →
      (c.compile search).events =
        (Filter.compile search c.senderFilter).events ++
          (Filter.compile search c.receiverFilter).events) ∧
    ∀ files path,
      (∀ v, load files path = v ↔ Loads files path v) ∧
      ∀ c, (load files path).value = .ok c →
        c.validate = ⟨.ok (), []⟩ ∧ ∃ ready, (c.compile search).value = .ok ready := by
  refine ⟨?_, ?_, ?_, ?_, ?_⟩
  · intro c faults h
    exact Filter.events_compile_of_error h
  · intro c f h
    exact Filter.events_compile_of_ok h
  · intro c e h
    exact compile_of_rejected h
  · intro c h
    exact events_compile_of_accepted h
  · intro files path
    refine ⟨fun v => load_eq_iff, fun c h => ?_⟩
    have hcheck := check_of_load h
    have hvalid : c.validate.value = .ok () := by rw [value_validate, hcheck]
    obtain ⟨_, _, hcompile, _⟩ := compile_of_check search hcheck
    exact ⟨validate_of_ok hvalid, _, congrArg Logged.value hcompile⟩

/-- A chain that asks twice for an expression that does not compile and once for another; it also
asks for one that does, and for the first as a plain text. -/
def noisy : Chain :=
  ⟨[⟨[{ mode := .userName, regex := true, userName := some "[bad" },
      { mode := .messageText, regex := true, messageText := some "^fine$" },
      { mode := .messageExtra, regex := true, messageExtra := some "a)" }], .reject⟩,
    ⟨[{ mode := .messageTitle, messageTitle := some "[bad" },
      { mode := .channelName, regex := true, channelName := some "[bad" }], .accept⟩]⟩

/-- Each of the three is told in its place, alone and in a configuration. A chain with faults tells
nothing, and rejects its configuration once. A file with one rule is loaded with one event. -/
theorem logs_problems_once_noisy :
    (Filter.compile Regex.search Chain.withFaults).events = [] ∧
      (Filter.compile Regex.search noisy).events =
        [.patternRefused "[bad", .patternRefused "a)", .patternRefused "[bad",
          .filterCompiled 2] ∧
      (({ senderFilter := noisy } : Config).compile Regex.search).events =
        [.patternRefused "[bad", .patternRefused "a)", .patternRefused "[bad",
          .filterCompiled 2, .filterCompiled 0] ∧
      (({ senderFilter := Chain.withFaults } : Config).compile Regex.search).events =
        [.configRejected ("sender_filter: in chain index 1: unrecognized action: drop; " ++
          "in chain index 1: in match index 0: missing parameter is_admin; " ++
          "in match index 2: missing parameter user_id")] ∧
      ∃ c, load Command.shut "c" = ⟨.ok c, [.configLoaded "c" 0 1 0]⟩ ∧
        c.validate = ⟨.ok (), []⟩ := by
  obtain ⟨hfails, hcompiles, hrejected, haccepted, hloads⟩ := logs_problems_once Regex.search
  have hfaulty : Chain.withFaults.check = .error ⟨Chain.withFaults.faults false⟩ := by decide
  have hrefused : noisy.refused Regex.search = ["[bad", "a)", "[bad"] := by decide +kernel
  obtain ⟨f, hf⟩ : ∃ f, (Filter.compile Regex.search noisy).value = .ok f :=
    Filter.exists_value_compile_iff.mpr (by decide)
  have hnoisy := hcompiles noisy f hf
  rw [hrefused] at hnoisy
  refine ⟨hfails _ _ (Filter.value_compile_eq_error_iff.mpr hfaulty), hnoisy, ?_, ?_, ?_⟩
  · rw [haccepted { senderFilter := noisy } (by decide), hnoisy]
    rfl
  · rw [hrejected _ (.senderFilter ⟨Chain.withFaults.faults false⟩) (by decide)]
    decide +kernel
  · have hformat : formatOf "c" = .yaml := rfl
    obtain ⟨hload, hagain⟩ := hloads Command.shut "c"
    have hloaded := (hload _).mpr (.loaded rfl (by rw [hformat]; exact Command.ofText_shut) (by decide))
    exact ⟨_, hloaded, (hagain _ (congrArg Logged.value hloaded)).1⟩

end Config

end BroadcastFilter
