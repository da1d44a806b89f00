import BroadcastFilter.Proofs.LoadingLog
import BroadcastFilter.Proofs.StrictCheck

/-!
How a run of the program can end. There are two relations, one with the ways in which a run fails and
one with those in which it answers, and every run ends in one of these ways alone. A command may
write whenever it likes; that none has written anything by the time it fails is shown way by way.
-/

namespace BroadcastFilter.Command

/-- The words that ask for the usage. -/
def helpWords : List String := ["--help", "-h", "help"]

/-- The ways in which a run can fail on given arguments. -/
inductive Fails (files : Files) : List String → Failure → Prop where
  | noCommand : Fails files [] .noCommand
  | unknownCommand {word : String} {args : List String}
      (hword : word ∉ ["eval", "check", "default-config"] ++ helpWords) :
      Fails files (word :: args) (.unknownCommand word)
  | checkWithoutPath : Fails files ["check"] .checkNeedsPath
  | checkUnexpected {path : String} {others : List String} (hsome : others ≠ [])
      (hothers : others ≠ ["--strict"]) :
      Fails files ("check" :: path :: others) (.unexpectedArgument (others.getLast hsome))
  | checkConfig {path : String} {flags : List String} {e : Config.Error}
      (hflags : flags = [] ∨ flags = ["--strict"])
      (hload : (Config.load files path).value = .error e) :
      Fails files ("check" :: path :: flags) (.config e)
  | checkBare {path part : String} {places : List Nat} {c : Config}
      (hload : (Config.load files path).value = .ok c) (hbare : c.FirstBare part places) :
      Fails files ["check", path, "--strict"] (.strict part ⟨places.map (·, .noConditions)⟩)
  | evalUnexpected {args : List String} {word : String}
      (hflag : args.find? isUnknownFlag = some word) :
      Fails files ("eval" :: args) (.unexpectedArgument word)
  | evalPaths {args : List String} (hflags : args.find? isUnknownFlag = none)
      (hpaths : (args.filter (· ≠ "--trace")).length ≠ 2) :
      Fails files ("eval" :: args) .evaluateNeedsPaths
  | evalConfig {args : List String} {what : Evaluation} {e : Config.Error}
      (hargs : Evaluation.ofArguments args = .ok what)
      (hload : (Config.load files what.config).value = .error e) :
      Fails files ("eval" :: args) (.config e)
  | evalUnreadable {args : List String} {what : Evaluation} {c : Config} {fault : ReadFault}
      (hargs : Evaluation.ofArguments args = .ok what)
      (hload : (Config.load files what.config).value = .ok c)
      (hfile : files what.message = .error fault) :
      Fails files ("eval" :: args) (.messageUnreadable what.message fault)
  | evalMessage {args : List String} {what : Evaluation} {c : Config} {text : String}
      {e : Decode.Error} (hargs : Evaluation.ofArguments args = .ok what)
      (hload : (Config.load files what.config).value = .ok c)
      (hfile : files what.message = .ok text)
      (hread : (messageFormat what.message).read Message.read text = .error e) :
      Fails files ("eval" :: args) (.message (messageFormat what.message) e)

/-- The ways in which a run can answer on given arguments, with what it prints. -/
inductive Prints (search : Search) (files : Files) : List String → String → Prop where
  | help {word : String} {args : List String} (hword : word ∈ helpWords) :
      Prints search files (word :: args) ""
  | starter {args : List String} :
      Prints search files ("default-config" :: args) (Yaml.render Config.starter.toValue)
  | valid {path : String} {c : Config} (hload : (Config.load files path).value = .ok c) :
      Prints search files ["check", path] "Config valid\n"
  | strictlyValid {path : String} {c : Config} (hload : (Config.load files path).value = .ok c)
      (hall : c.AllAsk) : Prints search files ["check", path, "--strict"] "Config valid\n"
  | decision {args : List String} {config message : String} {c : Config} {msg : Message}
      {action : Action} (hargs : Evaluation.ofArguments args = .ok ⟨config, message, false⟩)
      (hload : (Config.load files config).value = .ok c)
      (hmessage : loadMessage files message = .ok msg)
      (hdecides : ((c.chainFor msg).evaluate search msg Config.defaultAction).value = action)
      (hknown : action = .accept ∨ action = .reject) :
      Prints search files ("eval" :: args) (action.word ++ "\n")
  | trace {args : List String} {config message : String} {c : Config} {msg : Message}
      (hargs : Evaluation.ofArguments args = .ok ⟨config, message, true⟩)
      (hload : (Config.load files config).value = .ok c)
      (hmessage : loadMessage files message = .ok msg) :
      Prints search files ("eval" :: args)
        (((c.chainFor msg).trace search msg Config.defaultAction).toText ++ "\n")

variable {search : Search} {files : Files} {args : List String}

theorem loadConfig_of_error {path : String} {e : Config.Error}
    (h : (Config.load files path).value = .error e) :
    loadConfig files path = .error (.config e) := by
  rw [Config.load] at h
  rw [loadConfig, configOf, h, Config.mapError]

theorem loadMessage_of_unreadable {path : String} {fault : ReadFault}
    (h : files path = .error fault) :
    loadMessage files path = .error (.messageUnreadable path fault) := by
  simp only [loadMessage, messageOf, h]

theorem loadMessage_of_malformed {path text : String} {e : Decode.Error}
    (hfile : files path = .ok text)
    (hread : (messageFormat path).read Message.read text = .error e) :
    loadMessage files path = .error (.message (messageFormat path) e) := by
  simp only [loadMessage, messageOf, hfile, hread, Config.mapError]

theorem run_unknown {word : String}
    (hword : word ∉ ["eval", "check", "default-config"] ++ helpWords) :
    run search (word :: args) = .fail (.unknownCommand word) := by
  simp only [helpWords, List.cons_append, List.nil_append, List.mem_cons, List.not_mem_nil,
    or_false, not_or] at hword
  obtain ⟨heval, hcheck, hstarter, hlong, hshort, hhelp⟩ := hword
  rw [run] <;> assumption

theorem checkArguments_of_others {path : String} {others : List String} (hsome : others ≠ [])
    (hothers : others ≠ ["--strict"]) :
    checkArguments (path :: others) = .error (.unexpectedArgument (others.getLast hsome)) := by
  match others with
  | [] => exact absurd rfl hsome
  | [flag] =>
      have hflag : flag ≠ "--strict" := by simpa using hothers
      simp [checkArguments, hflag]
  | flag :: other :: rest =>
      have hlast : (path :: flag :: other :: rest).getLast? =
          some ((flag :: other :: rest).getLast hsome) := by
        rw [List.getLast?_eq_some_getLast (List.cons_ne_nil _ _), List.getLast_cons hsome]
      simp only [checkArguments, hlast, Option.getD_some]

theorem on_evaluate_of_error {failure : Failure}
    (h : Evaluation.ofArguments args = .error failure) :
    (run search ("eval" :: args)).on files = .silent (.error failure) := by
  have hargs : (Program.ofExcept (Evaluation.ofArguments args)).on files =
      .silent (.error failure) := by
    rw [Program.on_ofExcept, h]
  rw [run_eval, evaluate, Program.on_bind_of_error hargs]

theorem on_check_of_error {failure : Failure} (h : checkArguments args = .error failure) :
    (run search ("check" :: args)).on files = .silent (.error failure) := by
  have hrun : run search ("check" :: args) = check args := rfl
  have hargs : (Program.ofExcept (checkArguments args)).on files = .silent (.error failure) := by
    rw [Program.on_ofExcept, h]
  rw [hrun, check, Program.on_bind_of_error hargs]

/-- A command that fails has written nothing on either stream. -/
theorem Fails.on_run {failure : Failure} (h : Fails files args failure) (search : Search) :
    (run search args).on files = .silent (.error failure) := by
  cases h with
  | noCommand => rfl
  | unknownCommand hword =>
      rw [run_unknown hword]
      rfl
  | checkWithoutPath => exact on_check_of_error rfl
  | checkUnexpected hsome hothers =>
      exact on_check_of_error (checkArguments_of_others hsome hothers)
  | checkConfig hflags hload =>
      rcases hflags with rfl | rfl
      · rw [on_run_check, loadConfig_of_error hload]
        rfl
      · rw [on_run_check_strict, loadConfig_of_error hload]
        rfl
  | checkBare hload hbare =>
      have hstrict := checkStrictly_of_firstBare (Config.check_of_load hload) hbare
      rw [on_run_check_strict, loadConfig_of_ok hload]
      simp only [bind, Except.bind, hstrict, answering]
  | evalUnexpected hflag => exact on_evaluate_of_error (ofArguments_of_flag hflag)
  | evalPaths hflags hpaths => exact on_evaluate_of_error (ofArguments_of_length_ne hflags hpaths)
  | evalConfig hargs hload =>
      rw [run_eval, on_evaluate search files hargs, loadConfig_of_error hload]
      rfl
  | evalUnreadable hargs hload hfile =>
      rw [run_eval, on_evaluate search files hargs, loadConfig_of_ok hload,
        loadMessage_of_unreadable hfile]
      rfl
  | evalMessage hargs hload hfile hread =>
      rw [run_eval, on_evaluate search files hargs, loadConfig_of_ok hload,
        loadMessage_of_malformed hfile hread]
      rfl

/-- A command that answers has written its answer on the standard output, and nothing else. -/
theorem Prints.on_run {text : String} (h : Prints search files args text) :
    ∃ errors, (run search args).on files = ⟨text, errors, .done ()⟩ := by
  cases h with
  | help hword =>
      have hrun : ∀ word ∈ helpWords, ∀ args, run search (word :: args) = .reportText usage := by
        simp only [helpWords, List.forall_mem_cons]
        exact ⟨fun _ => rfl, fun _ => rfl, fun _ => rfl, by simp⟩
      refine ⟨usage, ?_⟩
      rw [hrun _ hword, Program.on_reportText]
  | starter => exact ⟨"", Program.on_printText files _⟩
  | valid hload =>
      refine ⟨"", ?_⟩
      rw [on_run_check, loadConfig_of_ok hload]
      rfl
  | strictlyValid hload hall =>
      have hstrict := checkStrictly_of_allAsk (Config.check_of_load hload) hall
      refine ⟨"", ?_⟩
      rw [on_run_check_strict, loadConfig_of_ok hload]
      simp only [bind, Except.bind, hstrict, pure, Except.pure, answering]
  | decision hargs hload hmessage hdecides _ =>
      subst hdecides
      refine ⟨"", ?_⟩
      rw [run_eval, on_evaluate search files hargs, loadConfig_of_ok hload, hmessage]
      rfl
  | trace hargs hload hmessage =>
      refine ⟨"", ?_⟩
      rw [run_eval, on_evaluate search files hargs, loadConfig_of_ok hload, hmessage]
      rfl

/-- The run fails or answers in one of the ways above. -/
def Ends (search : Search) (files : Files) (args : List String) : Prop :=
  (∃ failure, Fails files args failure) ∨ ∃ text, Prints search files args text

theorem ends_check (search : Search) (files : Files) (args : List String) :
    Ends search files ("check" :: args) := by
  match args with
  | [] => exact .inl ⟨_, .checkWithoutPath⟩
  | path :: flags =>
      by_cases hflags : flags = [] ∨ flags = ["--strict"]
      · cases hload : (Config.load files path).value with
        | error e => exact .inl ⟨_, .checkConfig hflags hload⟩
        | ok c =>
            rcases hflags with rfl | rfl
            · exact .inr ⟨_, .valid hload⟩
            · rcases checkStrictly_of_check (Config.check_of_load hload) with
                ⟨hall, _⟩ | ⟨_, _, hbare, _⟩
              · exact .inr ⟨_, .strictlyValid hload hall⟩
              · exact .inl ⟨_, .checkBare hload hbare⟩
      · rw [not_or] at hflags
        exact .inl ⟨_, .checkUnexpected hflags.1 hflags.2⟩

theorem ends_loaded {what : Evaluation} {c : Config} (search : Search)
    (hargs : Evaluation.ofArguments args = .ok what)
    (hload : (Config.load files what.config).value = .ok c) :
    Ends search files ("eval" :: args) := by
  cases hfile : files what.message with
  | error fault => exact .inl ⟨_, .evalUnreadable hargs hload hfile⟩
  | ok text =>
      cases hread : (messageFormat what.message).read Message.read text with
      | error e => exact .inl ⟨_, .evalMessage hargs hload hfile hread⟩
      | ok msg =>
          have hmessage : loadMessage files what.message = .ok msg := by
            simp only [loadMessage, messageOf, hfile, hread, Config.mapError]
          obtain ⟨config, message, trace⟩ := what
          cases trace with
          | true => exact .inr ⟨_, .trace hargs hload hmessage⟩
          | false =>
              have hformed := Config.wellFormed_chainFor (Config.check_of_load hload) msg
              have hknown : ((c.chainFor msg).evaluate search msg
                  Config.defaultAction).value.isRecognized = true :=
                hformed.isRecognized_evaluate search msg rfl
              exact .inr ⟨_, .decision hargs hload hmessage rfl (Action.isRecognized_iff.mp hknown)⟩

theorem ends_eval (search : Search) (files : Files) (args : List String) :
    Ends search files ("eval" :: args) := by
  cases hflag : args.find? isUnknownFlag with
  | some word => exact .inl ⟨_, .evalUnexpected hflag⟩
  | none =>
      by_cases hpaths : (args.filter (· ≠ "--trace")).length = 2
      · obtain ⟨config, message, hfilter⟩ := List.length_eq_two.mp hpaths
        have hargs := ofArguments_of_filter hflag hfilter
        cases hload : (Config.load files config).value with
        | error e => exact .inl ⟨_, .evalConfig hargs hload⟩
        | ok c => exact ends_loaded search hargs hload
      · exact .inl ⟨_, .evalPaths hflag hpaths⟩

theorem ends_run (search : Search) (files : Files) (args : List String) :
    Ends search files args := by
  match args with
  | [] => exact .inl ⟨_, .noCommand⟩
  | word :: args =>
      by_cases hword : word ∈ ["eval", "check", "default-config"] ++ helpWords
      · rcases List.mem_append.mp hword with hcommand | hhelp
        · simp only [List.mem_cons, List.not_mem_nil, or_false] at hcommand
          rcases hcommand with rfl | rfl | rfl
          · exact ends_eval search files args
          · exact ends_check search files args
          · exact .inr ⟨_, .starter⟩
        · exact .inr ⟨_, .help hhelp⟩
      · exact .inl ⟨_, .unknownCommand hword⟩

theorem Fails.outcome_eq {failure : Failure} (h : Fails files args failure) (search : Search) :
    outcome search files args = ⟨1, "", failure.toText⟩ := by
  have hrun : (run search args).on files = answering (.error failure) := h.on_run search
  rw [outcome_of_answering hrun, Outcome.answering]

theorem Prints.outcome {text : String} (h : Prints search files args text) :
    (outcome search files args).exitCode = 0 ∧ (outcome search files args).output = text := by
  obtain ⟨errors, hrun⟩ := h.on_run
  rw [outcome_eq, hrun]
  exact ⟨rfl, rfl⟩

/-- The file at a path holds a configuration, and that is valid. -/
def LoadsValid (files : Files) (path : String) : Prop :=
  ∃ text c, files path = .ok text ∧ Config.ofText (Config.formatOf path) text = .ok c ∧
    c.validate.value = .ok ()

theorem exists_loadConfig_iff {path : String} :
    (∃ c, loadConfig files path = .ok c) ↔ LoadsValid files path := by
  constructor
  · rintro ⟨c, hc⟩
    have hvalue : (Config.load files path).value = .ok c := mapError_eq_ok_iff.mp hc
    obtain ⟨v, hloads⟩ := Config.exists_loads files path
    rw [hloads.load_eq] at hvalue
    cases hloads with
    | unreadable => cases hvalue
    | malformed => cases hvalue
    | rejected => cases hvalue
    | loaded hfile htext hvalid => exact ⟨_, _, hfile, htext, hvalid⟩
  · rintro ⟨text, c, hfile, htext, hvalid⟩
    have hload := Config.load_eq_iff.mpr (.loaded hfile htext hvalid)
    exact ⟨c, loadConfig_of_ok (congrArg Logged.value hload)⟩

/-- A run ends with the code 0 or 1. If it ends with 1 it has failed in one of the ways there are,
and has printed nothing beside the error; if it ends with 0 it has answered in one of the ways there
are, and has printed that answer alone. Whatever fails or answers in one of these ways ends so. An
evaluation answers exactly if its arguments are understood, the configuration can be read and is
valid, and the message can be read. -/
theorem failing_run_prints_nothing (search : Search) (files : Files) (args : List String) :
    ((outcome search files args).exitCode = 0 ∨ (outcome search files args).exitCode = 1) ∧
    ((outcome search files args).exitCode = 1 →
      (outcome search files args).output = "" ∧
        ∃ failure, Fails files args failure ∧
          (outcome search files args).errors = failure.toText) ∧
    ((outcome search files args).exitCode = 0 →
      Prints search files args (outcome search files args).output) ∧
    (∀ failure, Fails files args failure → (outcome search files args).exitCode = 1) ∧
    (∀ text, Prints search files args text →
      (outcome search files args).exitCode = 0 ∧ (outcome search files args).output = text) ∧
    ∀ rest, (outcome search files ("eval" :: rest)).exitCode = 0 ↔
      ∃ what, Evaluation.ofArguments rest = .ok what ∧ LoadsValid files what.config ∧
        ∃ msg, loadMessage files what.message = .ok msg := by
  have hfails (failure : Failure) (h : Fails files args failure) :
      (outcome search files args).exitCode = 1 := by
    rw [h.outcome_eq search]
  have hprints (text : String) (h : Prints search files args text) :
      (outcome search files args).exitCode = 0 ∧ (outcome search files args).output = text :=
    h.outcome
  refine ⟨?_, ?_, ?_, hfails, hprints, fun rest => ?_⟩
  · rcases ends_run search files args with ⟨failure, h⟩ | ⟨text, h⟩
    · exact .inr (hfails failure h)
    · exact .inl (hprints text h).1
  · intro hexit
    rcases ends_run search files args with ⟨failure, h⟩ | ⟨text, h⟩
    · rw [h.outcome_eq search]
      exact ⟨rfl, failure, h, rfl⟩
    · rw [(hprints text h).1] at hexit
      cases hexit
  · intro hexit
    rcases ends_run search files args with ⟨failure, h⟩ | ⟨text, h⟩
    · rw [hfails failure h] at hexit
      cases hexit
    · rwa [(hprints text h).2]
  · simp only [← exists_loadConfig_iff]
    constructor
    · intro hexit
      cases hargs : Evaluation.ofArguments rest with
      | error failure =>
          have hrun : (run search ("eval" :: rest)).on files = answering (.error failure) :=
            on_evaluate_of_error hargs
          rw [outcome_of_answering hrun] at hexit
          cases hexit
      | ok what => exact ⟨what, rfl, (exitCode_eval_eq_zero_iff search files hargs).mp hexit⟩
    · rintro ⟨what, hargs, hloads⟩
      exact (exitCode_eval_eq_zero_iff search files hargs).mpr hloads

/-- Beside files that an evaluation answers on with the word of its decision, an unknown flag makes
it fail, and nothing is printed although both files could be read. -/
theorem failing_run_prints_nothing_shut :
    (outcome Regex.search shut ["eval", "c", "m"]).exitCode = 0 ∧
      Prints Regex.search shut ["eval", "c", "m"] "reject\n" ∧
      (outcome Regex.search shut ["eval", "c", "m"]).output = "reject\n" ∧
      (outcome Regex.search shut ["eval", "c", "--verbose", "m"]).exitCode = 1 ∧
      (outcome Regex.search shut ["eval", "c", "--verbose", "m"]).output = "" := by
  obtain ⟨_, _, _, _, hprints, _⟩ :=
    failing_run_prints_nothing Regex.search shut ["eval", "c", "m"]
  obtain ⟨_, hsilent, _, hfails, _, _⟩ :=
    failing_run_prints_nothing Regex.search shut ["eval", "c", "--verbose", "m"]
  obtain ⟨msg, hmessage, hinbound⟩ := exists_loadMessage_shut
  have hdecides : ((({ senderFilter := ⟨[⟨[], .reject⟩]⟩ } : Config).chainFor msg).evaluate
      Regex.search msg Config.defaultAction).value = .reject := by
    rw [Config.chainFor, hinbound]
    rfl
  have hargs : Evaluation.ofArguments ["c", "m"] = .ok ⟨"c", "m", false⟩ :=
    ofArguments_of_two (by decide) (by decide)
  have hdecision : Prints Regex.search shut ["eval", "c", "m"] "reject\n" :=
    .decision hargs load_shut hmessage hdecides (.inr rfl)
  have hflag : Fails shut ["eval", "c", "--verbose", "m"] (.unexpectedArgument "--verbose") :=
    .evalUnexpected (by decide +kernel)
  have hexit := hfails _ hflag
  exact ⟨(hprints _ hdecision).1, hdecision, (hprints _ hdecision).2, hexit, (hsilent hexit).1⟩

end BroadcastFilter.Command
