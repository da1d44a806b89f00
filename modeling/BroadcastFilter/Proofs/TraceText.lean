import BroadcastFilter.Proofs.Canonical
import BroadcastFilter.Proofs.Readable
import BroadcastFilter.Trace

/-!
What a trace prints tells the trace. Each line begins in a way of its own: the line of a step, that
of a condition, the one about the default and the result, which goes on to the end and may be any
text. The tag of an unknown mode may be any text too, but it stands within its line, and the outcome
is what the line ends with. So the text can be read back line by line from its front.
-/

namespace BroadcastFilter

theorem Mode.eq_of_tag_eq {m m' : Mode} (hm : m.Canonical) (hm' : m'.Canonical)
    (h : m.tag = m'.tag) : m = m' := by
  rw [← norm_eq_self_iff.mpr hm, ← norm_eq_self_iff.mpr hm', ← ofTag_tag, ← ofTag_tag, h]

theorem Action.eq_of_word_eq {a a' : Action} (ha : a.Canonical) (ha' : a'.Canonical)
    (h : a.word = a'.word) : a = a' := by
  rw [← norm_eq_self_iff.mpr ha, ← norm_eq_self_iff.mpr ha', ← ofWord_word, ← ofWord_word, h]

namespace Trace

/-- The tag stands in one line and does not name a known mode in the guise of an unknown one. -/
def Outcome.Legible (o : Outcome) : Prop := '\n' ∉ o.mode.tag.toList ∧ o.mode.Canonical

instance : DecidablePred Outcome.Legible := fun o =>
  inferInstanceAs (Decidable ('\n' ∉ o.mode.tag.toList ∧ o.mode.Canonical))

/-- How a line about a condition ends. -/
def outcomeText (matched : Bool) : List Char :=
  (": " ++ if matched then "true" else "false").toList

/-- The outcome is told by the end of its line, whatever tag comes before it. -/
theorem eq_of_append_outcomeText {tag tag' : List Char} {matched matched' : Bool}
    (h : tag ++ outcomeText matched = tag' ++ outcomeText matched') :
    tag = tag' ∧ matched = matched' :=
  Readable.flagAtEnd outcomeText (by decide) h

theorem newline_not_mem_outcomeText (matched : Bool) : '\n' ∉ outcomeText matched := by
  cases matched <;> decide

theorem Outcome.toList_toText (o : Outcome) :
    o.toText.toList = ("  [" ++ toString o.index ++ "] ").toList ++
      (o.mode.tag.toList ++ outcomeText o.matched ++ ['\n']) := by
  simp [toText, outcomeText]

theorem readable_outcome :
    Readable (fun o : Outcome => o.toText.toList) Outcome.Legible fun _ => True := by
  rintro ⟨index, mode, matched⟩ ⟨index', mode', matched'⟩ r s ⟨htag, hmode⟩ ⟨htag', hmode'⟩ _ _
    heq
  simp only [Outcome.toList_toText, List.append_assoc _ _ r, List.append_assoc _ _ s] at heq
  obtain ⟨rfl, hline⟩ := Readable.number ']' rfl (by decide) heq
  have hfree {tag : List Char} (htag : '\n' ∉ tag) (matched : Bool) :
      '\n' ∉ tag ++ outcomeText matched :=
    List.not_mem_append htag (newline_not_mem_outcomeText matched)
  obtain ⟨hlines, hrest⟩ := Readable.upTo '\n' (hfree htag matched) (hfree htag' matched')
    (stopsAt_cons _ r) (stopsAt_cons _ s) hline
  obtain ⟨hsame, rfl⟩ := eq_of_append_outcomeText hlines
  obtain rfl := Mode.eq_of_tag_eq hmode hmode' (String.toList_inj.mp hsame)
  exact ⟨rfl, (List.cons.inj hrest).2⟩

theorem head?_outcome (o : Outcome) (r : List Char) : (o.toText.toList ++ r).head? = some ' ' := by
  simp [Outcome.toText]

/-- The lines about the conditions of a step end where a line does not begin with a space. -/
theorem readable_outcomes :
    Readable (List.flatMap fun o : Outcome => o.toText.toList) (fun os => ∀ o ∈ os, o.Legible)
      fun r => r.head? ≠ some ' ' :=
  readable_outcome.list (fun _ _ => trivial) (fun _ _ => trivial)
    fun o r hstop => hstop (head?_outcome o r)

def Step.Legible (s : Step) : Prop := ∀ o ∈ s.conditions, o.Legible

instance : DecidablePred Step.Legible := fun s =>
  inferInstanceAs (Decidable (∀ o ∈ s.conditions, o.Legible))

theorem Step.toList_toText (s : Step) :
    s.toText.toList = ("rule[" ++ toString s.index ++ "]: ").toList ++
      ((if s.matched then "match\n" else "no match\n").toList ++
        s.conditions.flatMap fun o => o.toText.toList) := by
  cases hmatched : s.matched <;>
    simp [toText, hmatched, String.toList_join, List.flatMap_map]

theorem readable_step :
    Readable (fun s : Step => s.toText.toList) Step.Legible fun r => r.head? ≠ some ' ' := by
  rintro ⟨index, matched, conditions⟩ ⟨index', matched', conditions'⟩ r s hlegible hlegible' hr hs
    heq
  simp only [Step.toList_toText, List.append_assoc _ _ r, List.append_assoc _ _ s] at heq
  obtain ⟨rfl, hverdict⟩ := Readable.number ']' rfl (by decide) heq
  obtain ⟨rfl, houtcomes⟩ := Readable.flag
    (fun b => (if b then "match\n" else "no match\n").toList) (by decide) hverdict
  obtain ⟨rfl, hend⟩ := readable_outcomes hlegible hlegible' hr hs houtcomes
  exact ⟨rfl, hend⟩

theorem head?_step (s : Step) (r : List Char) : (s.toText.toList ++ r).head? = some 'r' := by
  simp [Step.toText]

/-- The steps end where neither a condition nor a rule comes next. -/
theorem readable_steps :
    Readable (List.flatMap fun s : Step => s.toText.toList) (fun ss => ∀ s ∈ ss, s.Legible)
      fun r => r.head? ≠ some ' ' ∧ ¬ "rule".toList <+: r := by
  refine readable_step.list ?_ (fun r hend => hend.1) ?_
  · intro s r
    rw [head?_step]
    decide
  · intro s r hend
    exact hend.2 (by simp [Step.toText])

/-- All tags and the result can be told from their texts. -/
structure Legible (t : Trace) : Prop where
  steps : ∀ s ∈ t.steps, s.Legible
  result : t.result.Canonical

/-- What comes after the steps. -/
def ending (t : Trace) : List Char :=
  (if t.usedDefault then "no rule matched, default applies\n" else "").toList ++
    ("result: ".toList ++ t.result.word.toList)

theorem toList_toText (t : Trace) :
    t.toText.toList = (t.steps.flatMap fun s => s.toText.toList) ++ t.ending := by
  simp [toText, ending, String.toList_join, List.flatMap_map]

theorem ending_stops (t : Trace) :
    t.ending.head? ≠ some ' ' ∧ ¬ "rule".toList <+: t.ending := by
  unfold ending
  cases t.usedDefault <;> simp

/-- The line about the default does not begin as the result does. -/
theorem eq_of_ending_eq {t t' : Trace} (ht : t.result.Canonical) (ht' : t'.result.Canonical)
    (h : t.ending = t'.ending) : t.usedDefault = t'.usedDefault ∧ t.result = t'.result := by
  unfold ending at h
  rw [← List.append_assoc, ← List.append_assoc] at h
  obtain ⟨hdefault, hword⟩ := Readable.flag
    (fun b => (if b then "no rule matched, default applies\n" else "").toList ++
      "result: ".toList) (by decide) h
  exact ⟨hdefault, Action.eq_of_word_eq ht ht' (String.toList_inj.mp hword)⟩

/-- Traces whose tags and results can be told from their texts are told from what they print: texts
are equal only for equal traces. -/
theorem text_tells_trace {t t' : Trace} (ht : t.Legible) (ht' : t'.Legible) :
    t.toText = t'.toText ↔ t = t' := by
  refine ⟨fun heq => ?_, fun heq => by rw [heq]⟩
  have hchars := congrArg String.toList heq
  rw [toList_toText, toList_toText] at hchars
  obtain ⟨hsteps, hending⟩ :=
    readable_steps ht.steps ht'.steps t.ending_stops t'.ending_stops hchars
  obtain ⟨hdefault, hresult⟩ := eq_of_ending_eq ht.result ht'.result hending
  cases t
  cases t'
  simp only at hsteps hdefault hresult
  rw [hsteps, hdefault, hresult]

/-- A trace of two rules, the first of which has not applied. -/
def plain : Trace where
  result := .reject
  steps := [⟨0, false, [⟨0, .userName, false⟩]⟩, ⟨1, true, []⟩]
  usedDefault := false

/-- A trace of one rule, whose tag has an outcome in it and whose result has further lines. -/
def deceptive : Trace where
  result := .unrecognized "reject\nrule[1]: match\nresult: reject"
  steps := [⟨0, false, [⟨0, .unknown "user_name: false", false⟩]⟩]
  usedDefault := false

/-- However alike they look, the two traces do not print the same. -/
theorem text_tells_trace_deceptive :
    plain.Legible ∧ deceptive.Legible ∧ deceptive.toText ≠ plain.toText := by
  have hplain : plain.Legible := ⟨by decide, by decide⟩
  have hdeceptive : deceptive.Legible := ⟨by decide, by decide⟩
  exact ⟨hplain, hdeceptive, (text_tells_trace hdeceptive hplain).not.mpr (by decide)⟩

end Trace

end BroadcastFilter
