import BroadcastFilter.Command
import Mathlib.Data.List.Basic
import Mathlib.Logic.Relation

/-!
The arguments of an evaluation. The mark of a trace may stand anywhere among them and more than
once; what else looks like a flag is refused, the first such word wherever it stands; and the words
that are left are the paths in their order. So marks may come, go and move: they change neither the
paths nor the error.
-/

namespace BroadcastFilter.Command

/-- The word looks like a flag and is none that an evaluation has. -/
def isUnknownFlag (word : String) : Bool := word ≠ "--trace" && word.startsWith "--"

theorem sortArguments_eq (args : List String) :
    sortArguments args =
      match args.find? isUnknownFlag with
      | some word => .error (.unexpectedArgument word)
      | none => .ok (args.filter (· ≠ "--trace"), args.contains "--trace") := by
  induction args with
  | nil => rfl
  | cons word rest ih =>
      rw [sortArguments, ih, List.find?_cons]
      by_cases htrace : word = "--trace"
      · have hknown : isUnknownFlag word = false := by simp [isUnknownFlag, htrace]
        rw [if_pos htrace, hknown]
        cases rest.find? isUnknownFlag with
        | some other => rfl
        | none =>
            subst htrace
            simp [bind, Except.bind, pure, Except.pure]
      · rw [if_neg htrace]
        cases hflag : word.startsWith "--" with
        | true =>
            have hunknown : isUnknownFlag word = true := by simp [isUnknownFlag, htrace, hflag]
            rw [hunknown]
            rfl
        | false =>
            have hknown : isUnknownFlag word = false := by simp [isUnknownFlag, hflag]
            rw [hknown]
            cases rest.find? isUnknownFlag with
            | some other => rfl
            | none => simp [bind, Except.bind, pure, Except.pure, htrace, Ne.symm htrace]

theorem ofArguments_of_flag {args : List String} {word : String}
    (hflag : args.find? isUnknownFlag = some word) :
    Evaluation.ofArguments args = .error (.unexpectedArgument word) := by
  rw [Evaluation.ofArguments, sortArguments_eq, hflag]

theorem ofArguments_of_length_ne {args : List String} (hknown : args.find? isUnknownFlag = none)
    (hpaths : (args.filter (· ≠ "--trace")).length ≠ 2) :
    Evaluation.ofArguments args = .error .evaluateNeedsPaths := by
  rw [Evaluation.ofArguments, sortArguments_eq, hknown]
  match hfilter : args.filter (· ≠ "--trace") with
  | [] => rfl
  | [_] => rfl
  | [_, _] => exact absurd (congrArg List.length hfilter) hpaths
  | _ :: _ :: _ :: _ => rfl

theorem ofArguments_of_filter {args : List String} {config message : String}
    (hknown : args.find? isUnknownFlag = none)
    (hpaths : args.filter (· ≠ "--trace") = [config, message]) :
    Evaluation.ofArguments args = .ok ⟨config, message, args.contains "--trace"⟩ := by
  rw [Evaluation.ofArguments, sortArguments_eq, hknown, hpaths]

/-- Two paths and marks of a trace among them, wherever these stand. -/
theorem ofArguments_of_paths {args : List String} {config message : String}
    (hpaths : args.filter (· ≠ "--trace") = [config, message])
    (hconfig : config.startsWith "--" = false) (hmessage : message.startsWith "--" = false) :
    Evaluation.ofArguments args = .ok ⟨config, message, args.contains "--trace"⟩ := by
  have hknown : args.find? isUnknownFlag = none := by
    refine List.find?_eq_none.mpr fun word hword => ?_
    by_cases htrace : word = "--trace"
    · simp [isUnknownFlag, htrace]
    · have hpath : word ∈ args.filter (· ≠ "--trace") := by simp [hword, htrace]
      rw [hpaths] at hpath
      simp only [List.mem_cons, List.not_mem_nil, or_false] at hpath
      rcases hpath with rfl | rfl
      · simp [isUnknownFlag, hconfig]
      · simp [isUnknownFlag, hmessage]
  exact ofArguments_of_filter hknown hpaths

theorem ofArguments_of_two {config message : String} (hconfig : config.startsWith "--" = false)
    (hmessage : message.startsWith "--" = false) :
    Evaluation.ofArguments [config, message] = .ok ⟨config, message, false⟩ := by
  have hpath {path : String} (h : path.startsWith "--" = false) : path ≠ "--trace" := by
    rintro rfl
    have hflag : "--trace".startsWith "--" = true := by decide +kernel
    rw [hflag] at h
    cases h
  rw [ofArguments_of_paths ?_ hconfig hmessage]
  · simp [(hpath hconfig).symm, (hpath hmessage).symm]
  · simp [hpath hconfig, hpath hmessage]

/-- The word begins as flags do, and is not the mark of a trace. -/
def IsStrayFlag (word : String) : Prop := word ≠ "--trace" ∧ "--".toList <+: word.toList

instance (word : String) : Decidable (IsStrayFlag word) := inferInstanceAs (Decidable (_ ∧ _))

theorem isUnknownFlag_iff {word : String} : isUnknownFlag word = true ↔ IsStrayFlag word := by
  simp [isUnknownFlag, IsStrayFlag, String.startsWith_string_iff]

theorem find?_isUnknownFlag_eq_none_iff {args : List String} :
    args.find? isUnknownFlag = none ↔ ∀ word ∈ args, ¬ IsStrayFlag word := by
  simp only [List.find?_eq_none, isUnknownFlag_iff]

theorem find?_isUnknownFlag_eq_some_iff {args : List String} {word : String} :
    args.find? isUnknownFlag = some word ↔
      IsStrayFlag word ∧
        ∃ before after, args = before ++ word :: after ∧ ∀ w ∈ before, ¬ IsStrayFlag w := by
  simp only [List.find?_eq_some_iff_append, ← isUnknownFlag_iff, Bool.not_eq_true,
    Bool.not_eq_true']

/-- The arguments ask for this evaluation: beside the marks of a trace they are its two paths, and
no other word among them begins as flags do. -/
structure Evaluation.AskedBy (what : Evaluation) (args : List String) : Prop where
  known : ∀ word ∈ args, ¬ IsStrayFlag word
  paths : args.filter (· ≠ "--trace") = [what.config, what.message]
  trace : what.trace = true ↔ "--trace" ∈ args

/-- What is said of arguments that ask for no evaluation. A stray flag counts before the number of
paths, and of several stray flags the first. -/
inductive Refused : List String → String → Prop where
  | strayFlag {before after : List String} {word : String}
      (hbefore : ∀ w ∈ before, ¬ IsStrayFlag w) (hword : IsStrayFlag word) :
      Refused (before ++ word :: after) ("unexpected argument \"" ++ word ++ "\"")
  | paths {args : List String} (hknown : ∀ word ∈ args, ¬ IsStrayFlag word)
      (hpaths : (args.filter (· ≠ "--trace")).length ≠ 2) :
      Refused args "eval requires a config file path and a message file path"

variable {args args' : List String}

theorem Evaluation.AskedBy.ofArguments_eq {what : Evaluation} (h : what.AskedBy args) :
    Evaluation.ofArguments args = .ok what := by
  have htrace : args.contains "--trace" = what.trace := by
    rw [Bool.eq_iff_iff, List.contains_iff_mem, h.trace]
  rw [ofArguments_of_filter (find?_isUnknownFlag_eq_none_iff.mpr h.known) h.paths, htrace]

theorem Refused.ofArguments_eq {text : String} (h : Refused args text) :
    Config.mapError Failure.reason (Evaluation.ofArguments args) = .error text := by
  cases h with
  | strayFlag hbefore hword =>
      rw [ofArguments_of_flag
        (find?_isUnknownFlag_eq_some_iff.mpr ⟨hword, _, _, rfl, hbefore⟩)]
      rfl
  | paths hknown hpaths =>
      rw [ofArguments_of_length_ne (find?_isUnknownFlag_eq_none_iff.mpr hknown) hpaths]
      rfl

theorem askedBy_or_refused (args : List String) :
    (∃ what : Evaluation, what.AskedBy args) ∨ ∃ text, Refused args text := by
  cases hflag : args.find? isUnknownFlag with
  | some word =>
      obtain ⟨hword, before, after, rfl, hbefore⟩ := find?_isUnknownFlag_eq_some_iff.mp hflag
      exact .inr ⟨_, .strayFlag hbefore hword⟩
  | none =>
      have hknown := find?_isUnknownFlag_eq_none_iff.mp hflag
      by_cases hpaths : (args.filter (· ≠ "--trace")).length = 2
      · obtain ⟨config, message, hfilter⟩ := List.length_eq_two.mp hpaths
        exact .inl ⟨⟨config, message, args.contains "--trace"⟩, hknown, hfilter,
          List.contains_iff_mem⟩
      · exact .inr ⟨_, .paths hknown hpaths⟩

theorem ofArguments_eq_ok_iff {what : Evaluation} :
    Evaluation.ofArguments args = .ok what ↔ what.AskedBy args := by
  refine ⟨fun h => ?_, fun h => h.ofArguments_eq⟩
  rcases askedBy_or_refused args with ⟨what', hasked⟩ | ⟨text, hrefused⟩
  · obtain rfl : what' = what := Except.ok.inj (hasked.ofArguments_eq.symm.trans h)
    exact hasked
  · have herror := hrefused.ofArguments_eq
    rw [h] at herror
    cases herror

theorem reason_ofArguments_iff {text : String} :
    Config.mapError Failure.reason (Evaluation.ofArguments args) = .error text ↔
      Refused args text := by
  refine ⟨fun h => ?_, fun h => h.ofArguments_eq⟩
  rcases askedBy_or_refused args with ⟨what, hasked⟩ | ⟨text', hrefused⟩
  · rw [hasked.ofArguments_eq] at h
    cases h
  · obtain rfl : text' = text := Except.error.inj (hrefused.ofArguments_eq.symm.trans h)
    exact hrefused

/-- One mark of a trace more, at any place. -/
inductive MarkPut : List String → List String → Prop where
  | intro (before after : List String) : MarkPut (before ++ after) (before ++ "--trace" :: after)

/-- The arguments come from each other by marks put in and taken out. A mark that moves is taken out
and put in elsewhere, and one that is repeated is put in once more. -/
def Remarked : List String → List String → Prop := Relation.EqvGen MarkPut

theorem MarkPut.filter_eq (h : MarkPut args args') :
    args'.filter (· ≠ "--trace") = args.filter (· ≠ "--trace") := by
  obtain ⟨before, after⟩ := h
  simp

theorem Remarked.cons (word : String) (h : Remarked args args') :
    Remarked (word :: args) (word :: args') := by
  induction h with
  | rel _ _ hput =>
      obtain ⟨before, after⟩ := hput
      exact .rel _ _ (.intro (word :: before) after)
  | refl _ => exact .refl _
  | symm _ _ _ ih => exact .symm _ _ ih
  | trans _ _ _ _ _ ih ih' => exact .trans _ _ _ ih ih'

theorem remarked_filter (args : List String) :
    Remarked (args.filter (· ≠ "--trace")) args := by
  induction args with
  | nil => exact .refl _
  | cons word rest ih =>
      by_cases htrace : word = "--trace"
      · -- The words behind are reached first, and then the mark is put in before them.
        subst htrace
        rw [List.filter_cons_of_neg (by simp)]
        exact .trans _ _ _ ih (.rel _ _ (.intro [] rest))
      · rw [List.filter_cons_of_pos (by simpa using htrace)]
        exact ih.cons word

/-- Marks can be put in and taken out until the arguments are the same, exactly if the other words
are. -/
theorem remarked_iff :
    Remarked args args' ↔ args'.filter (· ≠ "--trace") = args.filter (· ≠ "--trace") := by
  constructor
  · intro h
    induction h with
    | rel _ _ hput => exact hput.filter_eq
    | refl _ => rfl
    | symm _ _ _ ih => exact ih.symm
    | trans _ _ _ _ _ ih ih' => exact ih'.trans ih
  · intro h
    have hwords := remarked_filter args'
    rw [h] at hwords
    exact .trans _ _ _ (.symm _ _ (remarked_filter args)) hwords

theorem find?_filter_marks (args : List String) :
    (args.filter (· ≠ "--trace")).find? isUnknownFlag = args.find? isUnknownFlag := by
  rw [List.find?_filter]
  congr 1
  funext word
  rw [Bool.eq_iff_iff]
  simp [isUnknownFlag_iff, IsStrayFlag]

theorem sortArguments_eq_map (args : List String) :
    sortArguments args =
      (sortArguments (args.filter (· ≠ "--trace"))).map
        fun sorted => (sorted.1, args.contains "--trace") := by
  rw [sortArguments_eq args, sortArguments_eq (args.filter _), find?_filter_marks]
  cases args.find? isUnknownFlag with
  | some word => rfl
  | none => simp [Except.map]

/-- The marks of a trace can be left out at first: they decide about the trace alone. -/
theorem ofArguments_eq_map (args : List String) :
    Evaluation.ofArguments args =
      (Evaluation.ofArguments (args.filter (· ≠ "--trace"))).map
        fun what => { what with trace := args.contains "--trace" } := by
  unfold Evaluation.ofArguments
  rw [sortArguments_eq_map args]
  cases sortArguments (args.filter (· ≠ "--trace")) with
  | error failure => rfl
  | ok sorted =>
      -- Both sides have these paths, and their number alone decides.
      obtain ⟨paths, trace⟩ := sorted
      match paths with
      | [] => rfl
      | [_] => rfl
      | [_, _] => rfl
      | _ :: _ :: _ :: _ => rfl

theorem Remarked.ofArguments_eq (h : Remarked args args') :
    Evaluation.ofArguments args' =
      (Evaluation.ofArguments args).map
        fun what => { what with trace := args'.contains "--trace" } := by
  rw [ofArguments_eq_map args', ofArguments_eq_map args, remarked_iff.mp h]
  cases Evaluation.ofArguments (args.filter (· ≠ "--trace")) with
  | error failure => rfl
  | ok what => rfl

/-- Arguments are understood exactly if they ask for an evaluation, and otherwise the error names the
first stray flag, or without one asks for the two paths. Marks of a trace that are put in, taken
out, moved or repeated change neither the paths nor the error: what they decide is the trace. -/
theorem ofArguments_follows_grammar (args : List String) :
    (∀ what, Evaluation.ofArguments args = .ok what ↔ what.AskedBy args) ∧
    (∀ text, Config.mapError Failure.reason (Evaluation.ofArguments args) = .error text ↔
      Refused args text) ∧
    ∀ args', Remarked args args' →
      Evaluation.ofArguments args' =
        (Evaluation.ofArguments args).map
          fun what => { what with trace := args'.contains "--trace" } :=
  ⟨fun _ => ofArguments_eq_ok_iff, fun _ => reason_ofArguments_iff, fun _ h => h.ofArguments_eq⟩

/-- A mark that is moved and repeated is still one mark, and one that is taken out is none. Where a
stray flag stands among too many paths and another behind it, the error names the first, wherever
the mark is. -/
theorem ofArguments_follows_grammar_moved :
    Evaluation.ofArguments ["c", "--trace", "m"] = .ok ⟨"c", "m", true⟩ ∧
      Remarked ["c", "--trace", "m"] ["--trace", "c", "m", "--trace"] ∧
      Evaluation.ofArguments ["--trace", "c", "m", "--trace"] = .ok ⟨"c", "m", true⟩ ∧
      Remarked ["c", "--trace", "m"] ["c", "m"] ∧
      Evaluation.ofArguments ["c", "m"] = .ok ⟨"c", "m", false⟩ ∧
      Config.mapError Failure.reason
          (Evaluation.ofArguments ["--trace", "a", "b", "--verbose", "c", "--strict"]) =
        .error "unexpected argument \"--verbose\"" ∧
      Config.mapError Failure.reason
          (Evaluation.ofArguments ["a", "b", "--verbose", "c", "--trace", "--strict"]) =
        .error "unexpected argument \"--verbose\"" := by
  obtain ⟨hasked, _, hmarks⟩ := ofArguments_follows_grammar ["c", "--trace", "m"]
  obtain ⟨_, hrefused, hmarks'⟩ :=
    ofArguments_follows_grammar ["--trace", "a", "b", "--verbose", "c", "--strict"]
  have hplain : Evaluation.ofArguments ["c", "--trace", "m"] = .ok ⟨"c", "m", true⟩ :=
    (hasked _).mpr ⟨by decide, by decide, by decide⟩
  have hmoved : Remarked ["c", "--trace", "m"] ["--trace", "c", "m", "--trace"] :=
    remarked_iff.mpr (by decide)
  have htaken : Remarked ["c", "--trace", "m"] ["c", "m"] := remarked_iff.mpr (by decide)
  have herror := (hrefused _).mpr
    (@Refused.strayFlag ["--trace", "a", "b"] ["c", "--strict"] "--verbose" (by decide) (by decide))
  refine ⟨hplain, hmoved, ?_, htaken, ?_, herror, ?_⟩
  · rw [hmarks _ hmoved, hplain]
    rfl
  · rw [hmarks _ htaken, hplain]
    rfl
  · rw [hmarks' _ (remarked_iff.mpr (by decide))]
    cases hargs : Evaluation.ofArguments ["--trace", "a", "b", "--verbose", "c", "--strict"] with
    | error failure =>
        rw [hargs] at herror
        exact herror
    | ok what =>
        rw [hargs] at herror
        cases herror

end BroadcastFilter.Command
