import BroadcastFilter.Proofs.Yaml.Character
import BroadcastFilter.Yaml.Printer
import BroadcastFilter.Yaml.Token.Plain
import Mathlib.Data.List.Basic

/-!
Plain scalars are read as they stand. Text that may be written plainly has no colon before a blank,
no mark of a comment after one and no blank at its end, so the reader takes word after word and gap
after gap and stops at the line's end, where less indented text comes next. A key of one word is
left at the colon after it.
-/

namespace BroadcastFilter.Yaml.Plain

/-- A word stops here: at the end, at a blank or a break, or at the colon after a key. -/
def stopsWord : List Char → Bool
  | [] => true
  | c :: rest => !isInk c || (c == ':' && blankNext rest)

theorem readWord_append {word rest : List Char} (hink : ∀ c ∈ word, isInk c = true)
    (hcolon : ∀ before after, word = before ++ ':' :: after → blankNext (after ++ rest) = false)
    (hrest : stopsWord rest = true) (read : List Char) :
    readWord false read (word ++ rest) = some (word.reverse ++ read, rest) := by
  induction word generalizing read with
  | nil =>
      cases rest with
      | nil => rfl
      | cons c rest =>
          rw [List.nil_append, readWord]
          simp only [stopsWord, isInk, Bool.not_not, Bool.or_eq_true] at hrest
          by_cases hblank : isBlank c = true ∨ isBreak c = true
          · simp [hblank]
          · simp [hblank, hrest.resolve_left hblank]
  | cons c word ih =>
      obtain ⟨hblank, hbreak⟩ := isInk_iff.mp (hink c (by simp))
      have hnot : (c == ':' && blankNext (word ++ rest)) = false := by
        rw [Bool.and_eq_false_iff, beq_eq_false_iff_ne]
        by_cases hc : c = ':'
        · exact .inr (hcolon [] word (by rw [hc, List.nil_append]))
        · exact .inl hc
      rw [List.cons_append, readWord]
      simp only [hblank, hbreak, hnot, Bool.or_self, Bool.false_and, Bool.false_eq_true, if_false]
      rw [ih (fun d hd => hink d (by simp [hd])), List.reverse_cons, List.append_assoc]
      · rfl
      · intro before after h
        exact hcolon (c :: before) after (by rw [h, List.cons_append])

/-- The text of a plain scalar, from the start of a word on: words with single-line gaps of spaces,
in which nothing ends the scalar and nothing begins a comment. -/
structure Flows (cs : List Char) : Prop where
  chars : ∀ c ∈ cs, isInk c = true ∨ c = ' '
  colon : ∀ before after, cs = before ++ ':' :: after → blankNext after = false
  comment : ∀ before after, cs ≠ before ++ ' ' :: '#' :: after
  last : cs.getLast? ≠ some ' '

theorem Flows.of_append {before cs : List Char} (h : Flows (before ++ cs)) : Flows cs where
  chars c hc := h.chars c (List.mem_append_right _ hc)
  colon b a heq := h.colon (before ++ b) a (by rw [heq, List.append_assoc])
  comment b a heq := h.comment (before ++ b) a (by rw [heq, List.append_assoc])
  last := by
    cases hcs : cs with
    | nil => nofun
    | cons c rest =>
        have hlast := h.last
        rwa [List.getLast?_append_of_ne_nil _ (by simp [hcs]), hcs] at hlast

/-- A word begins here, and no comment. -/
def WordNext : List Char → Prop
  | [] => False
  | c :: _ => isInk c = true ∧ c ≠ '#'

/-- A text is one word, or a word, a gap and a further text. -/
theorem Flows.split {cs : List Char} (h : Flows cs) (hword : WordNext cs) :
    (∀ c ∈ cs, isInk c = true) ∨
      ∃ word n rest, cs = word ++ (spaces (n + 1) ++ rest) ∧ (∀ c ∈ word, isInk c = true) ∧
        word ≠ [] ∧ WordNext rest := by
  obtain ⟨word, after, rfl, hink, hafter⟩ := exists_run isInk cs
  cases after with
  | nil => exact .inl (by rwa [List.append_nil])
  | cons c more =>
      right
      have hc : c = ' ' := by
        refine (h.chars c (by simp)).resolve_left ?_
        simp [hafter c rfl]
      obtain ⟨n, rest, rfl, hrest⟩ := exists_spaces more
      have hwhole : word ++ c :: (spaces n ++ rest) = word ++ (spaces (n + 1) ++ rest) := by
        rw [hc, spaces_succ, List.cons_append]
      refine ⟨word, n, rest, hwhole, hink, ?_, ?_⟩
      · rintro rfl
        have hfirst : isInk c = true := hword.1
        rw [hafter c rfl] at hfirst
        cases hfirst
      · rw [hwhole] at h
        cases rest with
        | nil =>
            refine h.last ?_
            rw [List.append_nil, spaces_succ', ← List.append_assoc, List.getLast?_concat]
        | cons d rest =>
            have hspace : d ≠ ' ' := by simpa using hrest
            refine ⟨(h.chars d (by simp)).resolve_right hspace, ?_⟩
            rintro rfl
            refine h.comment (word ++ spaces n) rest ?_
            rw [spaces_succ', List.append_assoc, List.append_assoc]
            rfl

theorem blankNext_append {after : List Char} (h : blankNext after = false) (rest : List Char) :
    blankNext (after ++ rest) = false := by
  cases after with
  | nil => cases h
  | cons c after => exact h

theorem tabTooFarLeft_spaces {indent n : Nat} {column : Option Nat} :
    tabTooFarLeft indent column (spaces n) = false := by
  induction n generalizing column with
  | zero => rfl
  | succ n ih =>
      rw [spaces_succ, tabTooFarLeft]
      simp [isBreak, ih]

section

variable {indent : Nat} {text gap : List Char} {newLine : Bool}

theorem head?_ne_comment {word : List Char} (hword : WordNext word) (rest : List Char) :
    ((word ++ rest).head? == some '#') = false := by
  cases word with
  | nil => exact hword.elim
  | cons c word => simpa using hword.2

theorem WordNext.ne_nil {word : List Char} (hword : WordNext word) : word ≠ [] := by
  rintro rfl
  exact hword

/-- All that one round of reading does: it takes a word and the run of blanks and breaks after it,
and goes on unless the run leads to less indented text. -/
theorem readFrom_round {word run after : List Char} (hword : WordNext word)
    (hink : ∀ c ∈ word, isInk c = true)
    (hcolon : ∀ b a, word = b ++ ':' :: a → blankNext (a ++ (run ++ after)) = false)
    (hne : run ≠ []) (hrun : ∀ c ∈ run, isInk c = false) (hafter : InkNext after)
    (htab : tabTooFarLeft indent none run = false) (fuel : Nat) :
    readFrom false indent text gap newLine false (fuel + 1) (word ++ (run ++ after)) =
      if !(breakTexts run).isEmpty && columnAfter run < indent then
        some ⟨text.reverse ++ gap ++ word, true, after⟩
      else
        readFrom false indent (word.reverse ++ gap.reverse ++ text)
          (if (breakTexts run).isEmpty then run else folded (breakTexts run))
          (!(breakTexts run).isEmpty) (run.getLast?.any isBreak) fuel after := by
  have hstops : stopsWord (run ++ after) = true := by
    cases run with
    | nil => exact absurd rfl hne
    | cons c run => simp [stopsWord, hrun c (by simp)]
  have hread := readWord_append hink hcolon hstops []
  have hrunEmpty : run.isEmpty = false := by simpa using hne
  have hwordEmpty : (word.reverse ++ []).isEmpty = false := by simpa using hword.ne_nil
  rw [readFrom]
  simp only [head?_ne_comment hword, Bool.false_and, Bool.or_self, Bool.false_eq_true, if_false,
    hread, Option.bind_some, blank_run hrun hafter, hrunEmpty, hwordEmpty, htab,
    List.drop_left, Bool.not_false, Bool.and_true]
  simp [List.append_assoc]

/-- The last word of a scalar, and the end of its line. -/
theorem readFrom_last {word rest : List Char} {column : Nat} (hword : WordNext word)
    (hflows : Flows word) (hink : ∀ c ∈ word, isInk c = true) (hcolumn : column < indent)
    (hrest : InkNext rest) (fuel : Nat) :
    readFrom false indent text gap newLine false (fuel + 1)
        (word ++ '\n' :: (spaces column ++ rest)) =
      some ⟨text.reverse ++ gap ++ word, true, rest⟩ := by
  have hbreaks : breakTexts ('\n' :: spaces column) = ['\n'] := by
    rw [breakTexts.eq_def]
    simp [isBreak, breakTexts_spaces]
  have hcolumnAfter : columnAfter ('\n' :: spaces column) = column :=
    columnAfter_break column rfl []
  rw [← List.cons_append, readFrom_round hword hink ?_ (by simp) ?_ hrest ?_]
  · simp [hbreaks, hcolumnAfter, hcolumn]
  · intro b a h
    exact blankNext_append (hflows.colon b a h) _
  · intro c hc
    rcases List.mem_cons.mp hc with rfl | hc
    · rfl
    · rw [eq_of_mem_spaces hc]
      rfl
  · rw [tabTooFarLeft]
    simp [isBreak, tabTooFarLeft_spaces]

/-- A plain scalar is read as it stands. -/
theorem readFrom_flows {rest : List Char} {column : Nat} (hcolumn : column < indent)
    (hrest : InkNext rest) {cs : List Char} (hflows : Flows cs) (hword : WordNext cs)
    {fuel : Nat} (hfuel : cs.length < fuel) :
    readFrom false indent text gap newLine false fuel (cs ++ '\n' :: (spaces column ++ rest)) =
      some ⟨text.reverse ++ gap ++ cs, true, rest⟩ := by
  induction fuel generalizing cs text gap newLine with
  | zero => omega
  | succ fuel ih =>
      rcases hflows.split hword with hink | ⟨word, n, more, rfl, hink, hne, hmore⟩
      · exact readFrom_last hword hflows hink hcolumn hrest fuel
      · have hhead : WordNext word := by
          cases word with
          | nil => exact absurd rfl hne
          | cons c word => exact hword
        have htail : InkNext (more ++ '\n' :: (spaces column ++ rest)) := by
          cases more with
          | nil => exact hmore.elim
          | cons c more => exact inkNext_cons hmore.1
        have hlast : (spaces (n + 1)).getLast?.any isBreak = false := by
          rw [spaces_succ', List.getLast?_concat]
          rfl
        rw [List.append_assoc, List.append_assoc, readFrom_round hhead hink ?_ (by simp) ?_ htail
          tabTooFarLeft_spaces, breakTexts_spaces, hlast]
        · have hshort : more.length < fuel := by
            have hlength : 0 < word.length := List.length_pos_of_ne_nil hne
            simp only [List.length_append, length_spaces] at hfuel
            omega
          rw [← List.append_assoc] at hflows
          simp only [List.isEmpty_nil, Bool.not_true, Bool.false_and, Bool.false_eq_true, if_false,
            if_true]
          rw [ih hflows.of_append hmore hshort]
          simp [List.append_assoc]
        · intro b a h
          have hcolon := hflows.colon b (a ++ (spaces (n + 1) ++ more))
            (by rw [h, List.append_assoc, List.cons_append])
          simpa only [List.append_assoc] using blankNext_append hcolon _
        · intro c hc
          rw [eq_of_mem_spaces hc]
          rfl

end

/-- A plain scalar is read as it stands, up to the next line, which is indented no more than what
the scalar stands in. -/
theorem read_flows {cs rest : List Char} (hflows : Flows cs) (hword : WordNext cs) {indent : Int}
    {column : Nat} (hcolumn : (column : Int) ≤ indent) (hrest : InkNext rest) :
    read false indent (cs ++ '\n' :: (spaces column ++ rest)) = some ⟨cs, true, rest⟩ := by
  rw [read, readFrom_flows (by omega) hrest hflows hword]
  · simp
  · simp only [List.length_append]
    omega

/-- A word before a colon is read up to the colon. -/
theorem read_key {word rest : List Char} (hword : WordNext word)
    (hink : ∀ c ∈ word, isInk c = true ∧ c ≠ ':') (hrest : blankNext rest = true) (indent : Int) :
    read false indent (word ++ ':' :: rest) = some ⟨word, false, ':' :: rest⟩ := by
  have hread : readWord false [] (word ++ ':' :: rest) =
      some (word.reverse ++ [], ':' :: rest) := by
    refine readWord_append (fun c hc => (hink c hc).1) ?_ ?_ []
    · intro b a h
      exact absurd rfl (hink ':' (by simp [h])).2
    · simp [stopsWord, hrest]
  have hrun : (':' :: rest).takeWhile (fun c => isBlank c || isBreak c) = [] := rfl
  have hhead : ((word ++ ':' :: rest).head? == some '#') = false := head?_ne_comment hword _
  rw [read, readFrom]
  simp only [hhead, hread, Option.bind_some, hrun]
  simp [hword.ne_nil]

section

variable {cs : List Char}

theorem blankNext_of_marked {before after : List Char} (hmarked : Shape.marked cs = false)
    (hne : before ≠ []) (heq : cs = before ++ ':' :: after) : blankNext after = false := by
  induction before generalizing cs with
  | nil => exact absurd rfl hne
  | cons a before ih =>
      subst heq
      cases before with
      | nil =>
          simp only [List.cons_append, List.nil_append, Shape.marked,
            Bool.or_eq_false_iff] at hmarked
          simpa using hmarked.1.1
      | cons b before =>
          simp only [List.cons_append, Shape.marked, Bool.or_eq_false_iff] at hmarked
          exact ih hmarked.2 (by simp) rfl

theorem no_comment_of_marked {before after : List Char} (hmarked : Shape.marked cs = false) :
    cs ≠ before ++ ' ' :: '#' :: after := by
  rintro rfl
  induction before with
  | nil => simp [Shape.marked, isBlankOrEnd, isBlank] at hmarked
  | cons a before ih =>
      refine ih ?_
      cases before with
      | nil =>
          simp only [List.cons_append, List.nil_append, Shape.marked,
            Bool.or_eq_false_iff] at hmarked ⊢
          exact hmarked.2
      | cons b before =>
          simp only [List.cons_append, Shape.marked, Bool.or_eq_false_iff] at hmarked
          exact hmarked.2

theorem not_startsMarked_of_allowsPlain {c : Char} (h : (Shape.of (c :: cs)).allowsPlain = true) :
    Shape.startsMarked c cs = false := by
  simp only [Shape.allowsPlain, Shape.of, Bool.not_eq_true', Bool.or_eq_false_iff] at h
  exact h.1.1.1.1.1.1.2

theorem flows_of_allowsPlain (h : (Shape.of cs).allowsPlain = true) : Flows cs := by
  have hshape := h
  simp only [Shape.allowsPlain, Shape.of, Bool.not_eq_true', Bool.or_eq_false_iff] at hshape
  obtain ⟨⟨⟨⟨⟨⟨_, hmarked⟩, hbreaks⟩, hprintable⟩, hedge⟩, _⟩, _⟩ := hshape
  refine ⟨fun c hc => ?_, fun before after heq => ?_, fun before after =>
    no_comment_of_marked hmarked, fun hlast => ?_⟩
  · have hbreak : isBreak c = false := by simpa using List.any_eq_false.mp hbreaks c hc
    have hprint : isPrintable c = true := printable_of_unprintable hprintable c hc
    cases hblank : isBlank c with
    | true => exact .inr (isBlank_of_isPrintable hprint hblank)
    | false => exact .inl (isInk_iff.mpr ⟨hblank, hbreak⟩)
  · cases before with
    | nil =>
        subst heq
        simpa [Shape.startsMarked] using not_startsMarked_of_allowsPlain h
    | cons a before => exact blankNext_of_marked hmarked (by simp) heq
  · simp [hlast, Shape.isSpace] at hedge

theorem wordNext_of_allowsPlain (h : (Shape.of cs).allowsPlain = true) (hne : cs ≠ []) :
    WordNext cs := by
  have hflows := flows_of_allowsPlain h
  cases cs with
  | nil => exact absurd rfl hne
  | cons c cs =>
      have hmarked := not_startsMarked_of_allowsPlain h
      simp only [Shape.allowsPlain, Shape.of, Bool.not_eq_true', Bool.or_eq_false_iff] at h
      refine ⟨(hflows.chars c (by simp)).resolve_right ?_, ?_⟩
      · rintro rfl
        simp [Shape.isSpace] at h
      · rintro rfl
        simp [Shape.startsMarked] at hmarked

end

end BroadcastFilter.Yaml.Plain
