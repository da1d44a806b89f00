import BroadcastFilter.Proofs.Append
import BroadcastFilter.Proofs.Arguments

/-!
Evaluating on the command line. A configuration that loads has passed its check, so it can always be
made ready; then the plain evaluation and the one with a trace fail for the same reasons and print
the same decision, the trace on its last line, and checking a configuration tells beforehand whether
it can be used at all.
-/

namespace BroadcastFilter

namespace ReadyConfig

/-- A configuration made ready decides as its chains do. -/
theorem value_decide {search : Search} {c : Config} {ready : ReadyConfig}
    (h : (c.compile search).value = .ok ready) (msg : Message) :
    (ready.decide msg).value =
      ((c.chainFor msg).evaluate search msg Config.defaultAction).value := by
  obtain ⟨_, _, hsender, hreceiver⟩ := Config.value_compile_eq_ok h
  unfold decide filterFor Config.chainFor
  cases msg.outbound with
  | false => exact Filter.value_evaluate_of_carries hsender msg _
  | true => exact Filter.value_evaluate_of_carries hreceiver msg _

end ReadyConfig

namespace Config

theorem wellFormed_chainFor {c : Config} (h : c.check = .ok ()) (msg : Message) :
    (c.chainFor msg).WellFormed := by
  obtain ⟨hsender, hreceiver⟩ := wellFormed_of_check h
  unfold chainFor
  split
  · exact hreceiver
  · exact hsender

/-- Only a configuration that has passed its check is loaded. -/
theorem check_of_load {files : Files} {path : String} {c : Config}
    (h : (load files path).value = .ok c) : c.check = .ok () := by
  unfold load ofRead at h
  split at h
  · cases h
  · split at h
    · cases h
    next c' _ =>
      have hvalidate := value_validate c'
      cases hcheck : c'.check with
      | error e =>
          rw [hcheck] at hvalidate
          simp [hvalidate] at h
      | ok _ =>
          rw [hcheck] at hvalidate
          have hsame : c' = c := by simpa [hvalidate] using h
          rw [← hsame, hcheck]

end Config

namespace Command

theorem mapError_eq_ok_iff {A E F : Type} {f : E → F} {x : Except E A} {a : A} :
    Config.mapError f x = .ok a ↔ x = .ok a := by
  cases x <;> simp [Config.mapError]

/-- The configuration at a path. -/
def loadConfig (files : Files) (path : String) : Except Failure Config := configOf path (files path)

/-- The message at a path. -/
def loadMessage (files : Files) (path : String) : Except Failure Message :=
  messageOf path (files path)

theorem loadConfig_of_ok {files : Files} {path : String} {c : Config}
    (h : (Config.load files path).value = .ok c) : loadConfig files path = .ok c :=
  mapError_eq_ok_iff.mpr h

theorem check_of_loadConfig {files : Files} {path : String} {c : Config}
    (h : loadConfig files path = .ok c) : c.check = .ok () :=
  Config.check_of_load (mapError_eq_ok_iff.mp h)

theorem loadConfig_congr {files files' : Files} {path : String} (h : files' path = files path) :
    loadConfig files' path = loadConfig files path :=
  congrArg (configOf path) h

theorem on_readConfig (files : Files) (path : String) :
    (readConfig path).on files = .silent (loadConfig files path) :=
  Program.on_ofExcept files (loadConfig files path)

theorem on_readMessage (files : Files) (path : String) :
    (readMessage path).on files = .silent (loadMessage files path) :=
  Program.on_ofExcept files (loadMessage files path)

/-- A command that writes its answer at last, or fails before it has written anything. -/
def answering : Except Failure String → Transcript Failure Unit
  | .ok text => ⟨text, "", .done ()⟩
  | .error failure => .silent (.error failure)

/-- What answers at last after a part that is silent, as a whole answers at last. -/
theorem on_bind_answering {A : Type} {files : Files} {x : Program Failure A} {r : Except Failure A}
    {f : A → Program Failure Unit} {g : A → Except Failure String} (hx : x.on files = .silent r)
    (hf : ∀ a, r = .ok a → (f a).on files = answering (g a)) :
    (x >>= f).on files = answering (r >>= g) := by
  cases r with
  | error failure => exact Program.on_bind_of_error hx f
  | ok a =>
      rw [Program.on_bind_of_ok hx]
      exact hf a rfl

/-- What an evaluation answers once the configuration and the message are there. -/
def answer (search : Search) (trace : Bool) (c : Chain) (msg : Message) : String :=
  if trace then (c.trace search msg Config.defaultAction).toText ++ "\n"
  else (c.evaluate search msg Config.defaultAction).value.word ++ "\n"

/-- With or without a trace, an evaluation fails only where something cannot be loaded, and nothing
has been written by then. -/
theorem on_evaluate (search : Search) (files : Files) {args : List String} {what : Evaluation}
    (h : Evaluation.ofArguments args = .ok what) :
    (evaluate search args).on files = answering do
      let config ← loadConfig files what.config
      let message ← loadMessage files what.message
      return answer search what.trace (config.chainFor message) message := by
  have hargs : (Program.ofExcept (Evaluation.ofArguments args)).on files = .silent (.ok what) := by
    rw [Program.on_ofExcept, h]
  rw [evaluate, Program.on_bind_of_ok hargs]
  refine on_bind_answering (on_readConfig files what.config) fun config hconfig => ?_
  refine on_bind_answering (on_readMessage files what.message) fun message _ => ?_
  cases what.trace with
  | true => exact Program.on_printText files _
  | false =>
      obtain ⟨sender, receiver, hcompile, _⟩ :=
        Config.compile_of_check search (check_of_loadConfig hconfig)
      have hready : (config.compile search).value = .ok ⟨config.channels, sender, receiver⟩ := by
        rw [hcompile]
      have hvalue : (Program.ofExcept (Config.mapError Failure.config
          (config.compile search).value)).on files =
            .silent (.ok ⟨config.channels, sender, receiver⟩) := by
        rw [Program.on_ofExcept, hready, Config.mapError]
      rw [if_neg Bool.false_ne_true, Program.on_bind_of_ok hvalue, Program.on_printText,
        ReadyConfig.value_decide hready]
      rfl

/-- Whatever a configuration file holds, there may be a message beside it: an empty file is one. -/
theorem exists_message (files : Files) (config : String) :
    ∃ (files' : Files) (message : String), files' config = files config ∧
      message.startsWith "--" = false ∧ ∃ msg, loadMessage files' message = .ok msg := by
  have hblank : Decode.Format.read .yaml Message.read "" = .ok {} := rfl
  have hloads (files' : Files) (message : String) (hempty : files' message = .ok "")
      (hformat : messageFormat message = .yaml) : ∃ msg, loadMessage files' message = .ok msg := by
    refine ⟨{}, ?_⟩
    rw [loadMessage, hempty, messageOf, hformat]
    exact mapError_eq_ok_iff.mpr hblank
  let files' : Files := fun path => if path = config then files config else .ok ""
  have hother (path : String) (hne : path ≠ config) : files' path = .ok "" := if_neg hne
  by_cases hname : config = "m"
  · refine ⟨files', "n", if_pos rfl, by decide, hloads _ _ (hother _ ?_) rfl⟩
    rw [hname]
    decide
  · refine ⟨files', "m", if_pos rfl, by decide, hloads _ _ (hother _ ?_) rfl⟩
    exact Ne.symm hname

/-- The text is empty or ends a line. -/
def EndsLine (s : String) : Prop := s.toList = [] ∨ s.toList.getLast? = some '\n'

theorem EndsLine.append {s t : String} (hs : EndsLine s) (ht : EndsLine t) :
    EndsLine (s ++ t) := by
  unfold EndsLine at *
  rw [String.toList_append, List.append_eq_nil_iff, List.getLast?_append]
  rcases ht with ht | ht
  · simpa [ht] using hs
  · exact .inr (by rw [ht, Option.some_or])

theorem endsLine_line (s : String) : EndsLine (s ++ "\n") := by
  refine .inr ?_
  rw [String.toList_append]
  simp

theorem endsLine_join {lines : List String} (h : ∀ s ∈ lines, EndsLine s) :
    EndsLine (String.join lines) := by
  induction lines with
  | nil => exact .inl rfl
  | cons s rest ih =>
      rw [String.join_cons]
      exact (h s (by simp)).append (ih fun t ht => h t (by simp [ht]))

theorem endsLine_outcome (o : Trace.Outcome) : EndsLine o.toText :=
  endsLine_line _

theorem endsLine_step (s : Trace.Step) : EndsLine s.toText := by
  refine (endsLine_line _).append (endsLine_join ?_)
  intro text htext
  obtain ⟨o, _, rfl⟩ := List.mem_map.mp htext
  exact endsLine_outcome o

/-- What a trace prints ends with its result on a line of its own. -/
theorem exists_toText_trace (t : Trace) :
    ∃ lead, EndsLine lead ∧ t.toText = lead ++ ("result: " ++ t.result.word) := by
  have hsteps : EndsLine (String.join (t.steps.map Trace.Step.toText)) := by
    refine endsLine_join fun text htext => ?_
    obtain ⟨s, _, rfl⟩ := List.mem_map.mp htext
    exact endsLine_step s
  have hdefault :
      EndsLine (if t.usedDefault then "no rule matched, default applies\n" else "") := by
    split
    · exact endsLine_line "no rule matched, default applies"
    · exact .inl rfl
  exact ⟨_, hsteps.append hdefault, by rw [Trace.toText, String.append_assoc]⟩

/-- What a run of such a command leaves behind. -/
def Outcome.answering : Except Failure String → Outcome
  | .ok text => ⟨0, text, ""⟩
  | .error failure => ⟨1, "", failure.toText⟩

/-- What a run leaves behind is what its command has written and what comes of its ending: the text
of a failure goes to the stream for errors. -/
theorem outcome_eq (search : Search) (files : Files) (args : List String) :
    outcome search files args =
      let t := (run search args).on files
      match t.ending with
      | .done () => ⟨0, t.output, t.errors⟩
      | .failed failure => ⟨1, t.output, t.errors ++ failure.toText⟩
      | .exited code => ⟨code, t.output, t.errors⟩ := by
  rw [outcome, main, Program.handle, Program.on_continueWith]
  obtain ⟨output, errors, ending⟩ := (run search args).on files
  cases ending with
  | done a => simp [Transcript.continueWith, Program.on, exitCode]
  | failed failure =>
      have htold : ((do
          .reportText failure.toText
          .exit 1) : Program Empty Unit).on files = ⟨"", failure.toText, .exited 1⟩ := by
        simp [Program.reportText, Program.exit, Program.on, bind, Program.continueWith, pure]
      simp [Transcript.continueWith, htold, exitCode]
  | exited code => simp [Transcript.continueWith, Program.on, exitCode]

theorem outcome_of_answering {search : Search} {files : Files} {args : List String}
    {x : Except Failure String} (h : (run search args).on files = answering x) :
    outcome search files args = .answering x := by
  rw [outcome_eq, h]
  cases x with
  | error failure => simp [answering, Transcript.silent, Outcome.answering]
  | ok text => rfl

theorem exitCode_answering_eq_zero_iff {x : Except Failure String} :
    (Outcome.answering x).exitCode = 0 ↔ ∃ text, x = .ok text := by
  cases x <;> simp [Outcome.answering]

theorem run_eval (search : Search) (args : List String) :
    run search ("eval" :: args) = evaluate search args := rfl

theorem on_run_check (search : Search) (files : Files) (path : String) :
    (run search ["check", path]).on files = answering do
      let _ ← loadConfig files path
      return "Config valid\n" := by
  have hrun : run search ["check", path] = check [path] := rfl
  have hargs : (Program.ofExcept (checkArguments [path])).on files = .silent (.ok (path, false)) :=
    Program.on_ofExcept files _
  rw [hrun, check, Program.on_bind_of_ok hargs]
  refine on_bind_answering (on_readConfig files path) fun c _ => ?_
  exact Program.on_printText files "Config valid\n"

theorem exitCode_eval_eq_zero_iff (search : Search) (files : Files) {args : List String}
    {what : Evaluation} (h : Evaluation.ofArguments args = .ok what) :
    (outcome search files ("eval" :: args)).exitCode = 0 ↔
      (∃ c, loadConfig files what.config = .ok c) ∧
        ∃ msg, loadMessage files what.message = .ok msg := by
  have hrun := on_evaluate search files h
  rw [← run_eval] at hrun
  rw [outcome_of_answering hrun, exitCode_answering_eq_zero_iff]
  cases loadConfig files what.config with
  | error failure => simp [bind, Except.bind]
  | ok c =>
      cases loadMessage files what.message with
      | error failure => simp [bind, Except.bind]
      | ok msg => simp [bind, Except.bind, pure, Except.pure]

theorem exitCode_check_eq_zero_iff (search : Search) (files : Files) (path : String) :
    (outcome search files ["check", path]).exitCode = 0 ↔ ∃ c, loadConfig files path = .ok c := by
  rw [outcome_of_answering (on_run_check search files path), exitCode_answering_eq_zero_iff]
  cases loadConfig files path with
  | error failure => simp [bind, Except.bind]
  | ok c => simp [bind, Except.bind, pure, Except.pure]

/-- The same evaluation with a trace: it ends in the same way, with the same errors, and if there is
an answer then the decision is all that the plain one prints and stands on the last line of the
other. -/
structure TracesAlike (plain traced : Outcome) : Prop where
  exitCode : traced.exitCode = plain.exitCode
  errors : traced.errors = plain.errors
  decision : plain.exitCode = 0 → plain.output = "accept\n" ∨ plain.output = "reject\n"
  lastLine : plain.exitCode = 0 →
    ∃ lead, EndsLine lead ∧ traced.output = lead ++ ("result: " ++ plain.output)

theorem tracesAlike_answer (search : Search) {c : Chain} (h : c.WellFormed) (msg : Message) :
    TracesAlike (.answering (.ok (answer search false c msg)))
      (.answering (.ok (answer search true c msg))) where
  exitCode := rfl
  errors := rfl
  decision _ := by
    have haction : (c.evaluate search msg Config.defaultAction).value.isRecognized = true :=
      h.isRecognized_evaluate search msg rfl
    rcases Action.isRecognized_iff.mp haction with haccept | hreject
    · left
      simp [Outcome.answering, answer, haccept, Action.word]
    · right
      simp [Outcome.answering, answer, hreject, Action.word]
  lastLine _ := by
    obtain ⟨lead, hlead, htext⟩ := exists_toText_trace (c.trace search msg Config.defaultAction)
    refine ⟨lead, hlead, ?_⟩
    simp [Outcome.answering, answer, htext, c.result_trace, String.append_assoc]

theorem tracesAlike_eval (search : Search) (files : Files) {config message : String}
    {plainArgs tracedArgs : List String}
    (hplain : Evaluation.ofArguments plainArgs = .ok ⟨config, message, false⟩)
    (htraced : Evaluation.ofArguments tracedArgs = .ok ⟨config, message, true⟩) :
    TracesAlike (outcome search files ("eval" :: plainArgs))
      (outcome search files ("eval" :: tracedArgs)) := by
  have hplain := on_evaluate search files hplain
  have htraced := on_evaluate search files htraced
  rw [← run_eval] at hplain htraced
  rw [outcome_of_answering hplain, outcome_of_answering htraced]
  cases hconfig : loadConfig files config with
  | error failure => exact ⟨rfl, rfl, nofun, nofun⟩
  | ok c =>
      cases loadMessage files message with
      | error failure => exact ⟨rfl, rfl, nofun, nofun⟩
      | ok msg =>
          have hcheck := check_of_loadConfig hconfig
          exact tracesAlike_answer search (Config.wellFormed_chainFor hcheck msg) msg

/-- An evaluation without a trace, and one with the mark of a trace anywhere, succeed on the same
files and otherwise fail with the same errors; what the first prints, accept or reject, is the
decision on the last line of the second. A check succeeds exactly if an evaluation succeeds whatever
the message, provided that the message loads, and what loads can always be made ready. -/
theorem evaluations_agree (search : Search) (files : Files) (config : String)
    (hconfig : config.startsWith "--" = false) :
    (∀ message args, message.startsWith "--" = false →
      args.filter (· ≠ "--trace") = [config, message] → "--trace" ∈ args →
      TracesAlike (outcome search files ["eval", config, message])
        (outcome search files ("eval" :: args))) ∧
    ((outcome search files ["check", config]).exitCode = 0 ↔
      ∀ (files' : Files) (message : String), files' config = files config →
        message.startsWith "--" = false → (∃ msg, loadMessage files' message = .ok msg) →
        (outcome search files' ["eval", config, message]).exitCode = 0) ∧
    ∀ c, loadConfig files config = .ok c → ∃ ready, (c.compile search).value = .ok ready := by
  have hplain {message : String} (hmessage : message.startsWith "--" = false) :
      Evaluation.ofArguments [config, message] = .ok ⟨config, message, false⟩ :=
    ofArguments_of_two hconfig hmessage
  refine ⟨?_, ?_, ?_⟩
  · intro message args hmessage hpaths htrace
    refine tracesAlike_eval search files (hplain hmessage) ?_
    rw [ofArguments_of_paths hpaths hconfig hmessage, List.contains_iff_mem.mpr htrace]
  · rw [exitCode_check_eq_zero_iff]
    constructor
    · rintro ⟨c, hc⟩ files' message hsame hmessage hloads
      refine (exitCode_eval_eq_zero_iff search files' (hplain hmessage)).mpr ⟨⟨c, ?_⟩, hloads⟩
      rw [loadConfig_congr hsame, hc]
    · intro hall
      obtain ⟨files', message, hsame, hmessage, hloads⟩ := exists_message files config
      have heval := hall files' message hsame hmessage hloads
      obtain ⟨hloaded, _⟩ := (exitCode_eval_eq_zero_iff search files' (hplain hmessage)).mp heval
      rwa [← loadConfig_congr hsame]
  · intro c hc
    obtain ⟨sender, receiver, hcompile, _⟩ :=
      Config.compile_of_check search (check_of_loadConfig hc)
    exact ⟨_, by rw [hcompile]⟩

/-- A configuration that lets nothing in, beside a message with a title. -/
def shut : Files := fun path =>
  if path = "c" then .ok "sender_filter:\n- match: []\n  action: reject\n" else .ok "title: hello\n"

theorem ofText_shut :
    Config.ofText .yaml "sender_filter:\n- match: []\n  action: reject\n" =
      .ok { senderFilter := ⟨[⟨[], .reject⟩]⟩ } := by
  decide +kernel

theorem load_shut :
    (Config.load shut "c").value = .ok { senderFilter := ⟨[⟨[], .reject⟩]⟩ } := by
  have hformat : Config.formatOf "c" = .yaml := rfl
  simp only [Config.load, shut, if_true, Config.ofRead, hformat, ofText_shut]
  rfl

theorem exists_loadMessage_shut :
    ∃ msg, loadMessage shut "m" = .ok msg ∧ msg.outbound = false := by
  have hformat : messageFormat "m" = .yaml := rfl
  simp only [loadMessage, messageOf, shut, hformat]
  exact ⟨_, rfl, rfl⟩

/-- The message is turned away, with a trace as without one, and the configuration passes its check
and can be made ready. -/
theorem evaluations_agree_shut :
    TracesAlike (outcome Regex.search shut ["eval", "c", "m"])
        (outcome Regex.search shut ["eval", "c", "--trace", "m"]) ∧
      (outcome Regex.search shut ["eval", "c", "m"]).exitCode = 0 ∧
      (outcome Regex.search shut ["check", "c"]).exitCode = 0 ∧
      ∃ c, loadConfig shut "c" = .ok c ∧ ∃ ready, (c.compile Regex.search).value = .ok ready := by
  obtain ⟨halike, hcheck, hready⟩ :=
    evaluations_agree Regex.search shut "c" (by decide)
  have hload := loadConfig_of_ok load_shut
  have hchecked : (outcome Regex.search shut ["check", "c"]).exitCode = 0 :=
    (exitCode_check_eq_zero_iff ..).mpr ⟨_, hload⟩
  obtain ⟨msg, hmessage, _⟩ := exists_loadMessage_shut
  refine ⟨halike "m" _ (by decide) (by decide) (by decide), ?_, hchecked, _, hload, hready _ hload⟩
  exact hcheck.mp hchecked shut "m" rfl (by decide) ⟨msg, hmessage⟩

end Command

end BroadcastFilter
