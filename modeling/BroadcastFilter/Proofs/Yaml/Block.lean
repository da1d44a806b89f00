import BroadcastFilter.Proofs.Yaml.Character
import BroadcastFilter.Yaml.Printer
import BroadcastFilter.Yaml.Token.Block
import Mathlib.Data.List.Basic

/-!
Literal blocks are read as what they were written for. The lines of a block are read one after the
other, each with the breaks after it; the block's text is that of all lines and breaks, and the mark
in the header says which of the last breaks belong to it.
-/

namespace BroadcastFilter.Yaml.Block

/-- The breaks of a text stand for themselves when they are read. -/
def Standing (cs : List Char) : Prop :=
  ∀ c ∈ cs, isBreak c = true → c = '\n' ∨ c = '\u2028' ∨ c = '\u2029'

theorem Standing.of_append {xs ys : List Char} (h : Standing (xs ++ ys)) : Standing ys :=
  fun c hc => h c (List.mem_append_right _ hc)

theorem takeBreak?_break {b : Char} (hb : b = '\n' ∨ b = '\u2028' ∨ b = '\u2029')
    (rest : List Char) : takeBreak? (b :: rest) = some (b, rest) := by
  rcases hb with rfl | rfl | rfl <;> rfl

theorem takeBreak?_eq_none {rest : List Char} (h : ∀ c, rest.head? = some c → isBreak c = false) :
    takeBreak? rest = none := by
  cases rest with
  | nil => rfl
  | cons c rest =>
      have hc := h c rfl
      rw [takeBreak?.eq_def]
      split
      · simp_all [isBreak]
      · next heq =>
          obtain ⟨rfl, rfl⟩ := List.cons.inj heq
          have hseparator : (c == '\u2028' || c == '\u2029') = false := by
            simp only [isBreak, Bool.or_eq_false_iff] at hc
            simp [hc]
          simp [hseparator, hc]
      · simp_all

theorem takeSpaces_spaces {n limit : Nat} {rest : List Char}
    (h : n = limit ∨ n < limit ∧ rest.head? ≠ some ' ') :
    takeSpaces (some limit) (spaces n ++ rest) = (n, rest) := by
  have hall : min limit ((spaces n ++ rest).takeWhile (· == ' ')).length = n := by
    rcases h with rfl | ⟨hlt, hrest⟩
    · rw [List.takeWhile_append_of_pos fun c hc => by simpa using eq_of_mem_spaces hc,
        List.length_append, length_spaces]
      omega
    · rw [takeWhile_run (fun c hc => by simpa using eq_of_mem_spaces hc), length_spaces]
      · omega
      · rintro c hc
        simpa using fun heq : c = ' ' => hrest (heq ▸ hc)
  rw [takeSpaces]
  simp only [hall]
  rw [List.drop_left' (length_spaces n)]

/-- Empty lines are read up to a line that is not: one that begins at the column of the block, or
one that is indented less. -/
theorem emptyLines_breaks {k column : Nat} {text : List Char}
    (hstart : column = k ∨ column < k ∧ InkNext text)
    (htext : ∀ c, text.head? = some c → isBreak c = false) {run : List Char}
    (hrun : ∀ c ∈ run, c = '\n' ∨ c = '\u2028' ∨ c = '\u2029') (breaks : List Char) (widest : Nat)
    {fuel : Nat} (hfuel : run.length < fuel) :
    ∃ widest', emptyLines (some k) breaks widest fuel (run ++ (spaces column ++ text)) =
      some (breaks.reverse ++ run, widest', column, text) := by
  induction run generalizing breaks widest fuel with
  | nil =>
      obtain ⟨fuel, rfl⟩ := Nat.exists_eq_add_one_of_ne_zero (Nat.ne_zero_of_lt hfuel)
      have hspaces : takeSpaces (some k) (spaces column ++ text) = (column, text) := by
        refine takeSpaces_spaces (hstart.imp_right fun ⟨hlt, hink⟩ => ⟨hlt, fun hhead => ?_⟩)
        exact absurd (hink _ hhead) (by decide)
      have htab : (decide (column < k) && text.head? == some '\t') = false := by
        rcases hstart with rfl | ⟨_, hink⟩
        · simp
        · simp only [Bool.and_eq_false_iff, beq_eq_false_iff_ne]
          exact .inr fun hhead => absurd (hink _ hhead) (by decide)
      refine ⟨max widest column, ?_⟩
      rw [List.nil_append, emptyLines]
      simp [hspaces, htab, takeBreak?_eq_none htext]
  | cons b run ih =>
      obtain ⟨fuel, rfl⟩ := Nat.exists_eq_add_one_of_ne_zero (Nat.ne_zero_of_lt hfuel)
      have hb := hrun b (by simp)
      have hspaces : takeSpaces (some k) (b :: (run ++ (spaces column ++ text))) =
          (0, b :: (run ++ (spaces column ++ text))) := by
        refine takeSpaces_spaces (n := 0) ((Nat.eq_zero_or_pos k).imp .symm fun hk => ⟨hk, ?_⟩)
        rcases hb with rfl | rfl | rfl <;> simp
      have htab : (b == '\t') = false := by
        rcases hb with rfl | rfl | rfl <;> rfl
      obtain ⟨widest', hread⟩ := ih (fun c hc => hrun c (by simp [hc])) (b :: breaks)
        (max widest 0) (show run.length < fuel by simpa using hfuel)
      refine ⟨widest', ?_⟩
      rw [List.cons_append, emptyLines]
      simp only [hspaces, takeBreak?_break hb]
      simpa [htab] using hread

/-- No break stands at the start of a text. -/
def LineNext (cs : List Char) : Prop := ∀ c, cs.head? = some c → isBreak c = false

/-- A text ends with a break, if it is not empty. -/
def Ended (cs : List Char) : Prop := cs ≠ [] → cs.getLast?.any isBreak = true

theorem Ended.of_append {xs ys : List Char} (h : Ended (xs ++ ys)) : Ended ys := by
  intro hne
  have hlast := h (by simp [hne])
  rwa [List.getLast?_append_of_ne_nil _ hne] at hlast

/-- A text that begins with a line is the line, the breaks after it and a further such text. -/
theorem exists_line {cs : List Char} (hne : cs ≠ []) (hnext : LineNext cs) (hended : Ended cs) :
    ∃ line b run more, cs = line ++ b :: (run ++ more) ∧ line ≠ [] ∧
      (∀ c ∈ line, isBreak c = false) ∧ isBreak b = true ∧ (∀ c ∈ run, isBreak c = true) ∧
      LineNext more := by
  obtain ⟨line, after, rfl, hline, hafter⟩ := exists_run (fun c => !isBreak c) cs
  have hline : ∀ c ∈ line, isBreak c = false := fun c hc => by simpa using hline c hc
  cases after with
  | nil =>
      have hlast := hended hne
      rw [List.append_nil] at hlast hne
      rw [List.getLast?_eq_some_getLast hne, Option.any_some,
        hline _ (List.getLast_mem hne)] at hlast
      cases hlast
  | cons b after =>
      have hb : isBreak b = true := by simpa using hafter b rfl
      obtain ⟨run, more, rfl, hrun, hmore⟩ := exists_run isBreak after
      refine ⟨line, b, run, more, rfl, ?_, hline, hb, hrun, hmore⟩
      rintro rfl
      rw [hnext b rfl] at hb
      cases hb

section

variable {k column : Nat} {rest : List Char}

theorem literalLines_line {line : List Char} (hline : ∀ c ∈ line, isBreak c = false)
    (cs : List Char) :
    (Printer.literalLines k false (line ++ cs)).toList =
      line ++ (Printer.literalLines k false cs).toList := by
  induction line with
  | nil => rfl
  | cons c line ih =>
      have hc : isBreak c = false := hline c (by simp)
      rw [List.cons_append, Printer.literalLines, if_neg (by simp [hc])]
      simp [ih fun d hd => hline d (by simp [hd])]

theorem literalLines_breaks {run : List Char} (hrun : ∀ c ∈ run, isBreak c = true)
    (cs : List Char) :
    (Printer.literalLines k true (run ++ cs)).toList =
      run ++ (Printer.literalLines k true cs).toList := by
  induction run with
  | nil => rfl
  | cons b run ih =>
      have hb : isBreak b = true := hrun b (by simp)
      rw [List.cons_append, Printer.literalLines, if_pos hb]
      simp [ih fun d hd => hrun d (by simp [hd])]

/-- Where a text of lines goes on once the indentation of its first line has been read; after the
text, `rest` stands at `column`. -/
def entered (k column : Nat) (rest : List Char) : List Char → Nat × List Char
  | [] => (column, rest)
  | c :: cs => (k, (Printer.literalLines k false (c :: cs)).toList ++ (spaces column ++ rest))

theorem literalLines_entered {cs : List Char} (hnext : LineNext cs) :
    (Printer.literalLines k true cs).toList ++ (spaces column ++ rest) =
      spaces (entered k column rest cs).1 ++ (entered k column rest cs).2 := by
  cases cs with
  | nil => simp [Printer.literalLines, entered]
  | cons c cs =>
      have hc : isBreak c = false := hnext c rfl
      simp [Printer.literalLines, entered, hc, toList_indentation]

/-- Breaks are read up to where the next line is entered. -/
theorem emptyLines_entered (hcolumn : column < k) (hrest : InkNext rest) {run cs : List Char}
    (hrun : ∀ c ∈ run, c = '\n' ∨ c = '\u2028' ∨ c = '\u2029') (hnext : LineNext cs) {fuel : Nat}
    (hfuel : run.length < fuel) :
    ∃ widest, emptyLines (some k) [] 0 fuel
        (run ++ ((Printer.literalLines k true cs).toList ++ (spaces column ++ rest))) =
      some (run, widest, (entered k column rest cs).1, (entered k column rest cs).2) := by
  rw [literalLines_entered hnext]
  refine emptyLines_breaks ?_ ?_ hrun [] 0 hfuel
  · cases cs with
    | nil => exact .inr ⟨hcolumn, hrest⟩
    | cons c cs => exact .inl rfl
  · cases cs with
    | nil => exact fun c hc => (isInk_iff.mp (hrest c hc)).2
    | cons c cs =>
        have hc : isBreak c = false := hnext c rfl
        rw [entered, ← List.singleton_append, literalLines_line (by simpa using hc)]
        rintro _ ⟨⟩
        exact hc

/-- One round of reading takes a line and the breaks after it. -/
theorem readLines_round (hcolumn : column < k) (hrest : InkNext rest) {line run cs : List Char}
    {b : Char} (hne : line ≠ []) (hline : ∀ c ∈ line, isBreak c = false)
    (hb : b = '\n' ∨ b = '\u2028' ∨ b = '\u2029')
    (hrun : ∀ c ∈ run, c = '\n' ∨ c = '\u2028' ∨ c = '\u2029') (hnext : LineNext cs)
    (before : Lines) (breaks : List Char) (fuel : Nat) :
    readLines true k (fuel + 1) before breaks k
        (line ++ b :: (run ++
          ((Printer.literalLines k true cs).toList ++ (spaces column ++ rest)))) =
      readLines true k fuel
        ⟨line.reverse ++ (before.ending.toList ++ breaks).reverse ++ before.text, some b,
          line.head?.any isBlank⟩
        run (entered k column rest cs).1 (entered k column rest cs).2 := by
  obtain ⟨widest, hempty⟩ := emptyLines_entered hcolumn hrest hrun hnext
    (show run.length < (run ++ ((Printer.literalLines k true cs).toList ++
      (spaces column ++ rest))).length + 1 by rw [List.length_append]; omega)
  have hbreak : isBreak b = true := by rcases hb with rfl | rfl | rfl <;> rfl
  have htake : (line ++ b :: (run ++ ((Printer.literalLines k true cs).toList ++
      (spaces column ++ rest)))).takeWhile (fun c => !isBreak c) = line := by
    refine takeWhile_run (fun c hc => by simp [hline c hc]) ?_
    rintro _ ⟨⟩
    simp [hbreak]
  have hhead : (line ++ b :: (run ++ ((Printer.literalLines k true cs).toList ++
      (spaces column ++ rest)))).head? = line.head? := by
    cases line with
    | nil => exact absurd rfl hne
    | cons c line => rfl
  rw [readLines]
  simp only [htake, hhead, List.drop_left, takeBreak?_break hb, hempty]
  simp [joint, hne]

/-- The lines and breaks that a text has been read as. -/
structure ReadAs (cs : List Char) (lines : Lines) (breaks : List Char) : Prop where
  whole : lines.text.reverse ++ (lines.ending.toList ++ breaks) = cs
  /-- The lines end where the breaks begin. -/
  last : LineNext lines.text
  breaks : ∀ b ∈ lines.ending.toList ++ breaks, isBreak b = true
  none : lines.ending = none → lines.text = []

theorem ReadAs.line {read line run : List Char} {lines : Lines} {breaks : List Char}
    (h : ReadAs read lines breaks) {b : Char} (hne : line ≠ [])
    (hline : ∀ c ∈ line, isBreak c = false) (hb : isBreak b = true)
    (hrun : ∀ c ∈ run, isBreak c = true) (blank : Bool) :
    ReadAs (read ++ (line ++ b :: run))
      ⟨line.reverse ++ (lines.ending.toList ++ breaks).reverse ++ lines.text, some b, blank⟩
      run where
  whole := by simp [← h.whole]
  last := by
    intro c hc
    refine hline c ?_
    rw [List.append_assoc, List.head?_append_of_ne_nil _ (by simpa using hne)] at hc
    exact List.mem_reverse.mp (List.mem_of_head? hc)
  breaks := by simpa [hb] using hrun
  none := nofun

/-- Text that is written as lines is read as lines. -/
theorem readLines_reads (hcolumn : column < k) (hrest : InkNext rest) {cs : List Char}
    (hstanding : Standing cs) (hnext : LineNext cs) (hended : Ended cs) {read : List Char}
    {before : Lines} {breaks : List Char} (hread : ReadAs read before breaks) {fuel : Nat}
    (hfuel : cs.length < fuel) :
    ∃ after breaks', readLines true k fuel before breaks (entered k column rest cs).1
        (entered k column rest cs).2 = some (after, breaks', rest, column) ∧
      ReadAs (read ++ cs) after breaks' := by
  induction fuel generalizing cs read before breaks with
  | zero => omega
  | succ fuel ih =>
      by_cases hne : cs = []
      · subst hne
        refine ⟨before, breaks, ?_, by rwa [List.append_nil]⟩
        rw [entered, readLines]
        simp [Nat.ne_of_lt hcolumn]
      · obtain ⟨line, b, run, more, rfl, hlineNe, hline, hb, hrun, hmore⟩ :=
          exists_line hne hnext hended
        have hb' := hstanding b (by simp) hb
        have hrun' : ∀ c ∈ run, c = '\n' ∨ c = '\u2028' ∨ c = '\u2029' := fun c hc =>
          hstanding c (by simp [hc]) (hrun c hc)
        have hentered : entered k column rest (line ++ b :: (run ++ more)) =
            (k, line ++ b :: (run ++
              ((Printer.literalLines k true more).toList ++ (spaces column ++ rest)))) := by
          cases line with
          | nil => exact absurd rfl hlineNe
          | cons c line =>
              rw [List.cons_append, entered, ← List.cons_append, literalLines_line hline,
                Printer.literalLines, if_pos hb, String.toList_append, literalLines_breaks hrun]
              simp
        have hmoreEnded : Ended more := by
          rw [← List.cons_append, ← List.append_assoc] at hended
          exact hended.of_append
        have hmoreStanding : Standing more := fun c hc => hstanding c (by simp [hc])
        obtain ⟨after, breaks', hafter, hreads⟩ := ih hmoreStanding hmore hmoreEnded
          (hread.line hlineNe hline hb hrun (line.head?.any isBlank)) (by simp at hfuel; omega)
        refine ⟨after, breaks', ?_, by simpa using hreads⟩
        rw [hentered, readLines_round hcolumn hrest hlineNe hline hb' hrun' hmore, hafter]

theorem length_literalLines (lineStart : Bool) (cs : List Char) :
    cs.length ≤ (Printer.literalLines k lineStart cs).toList.length := by
  induction cs generalizing lineStart with
  | nil => exact Nat.zero_le _
  | cons c cs ih =>
      rw [Printer.literalLines]
      split
      · have hcs := ih true
        simp only [String.toList_append, String.toList_singleton, List.length_append,
          List.length_cons, List.length_nil]
        omega
      · have hcs := ih false
        simp only [String.toList_append, String.toList_singleton, List.length_append,
          List.length_cons, List.length_nil]
        omega

end

/-- A text ends with just one longest run of a class of characters. -/
theorem trailing_unique {p : Char → Bool} {xs ys xs' ys' : List Char} (h : xs ++ ys = xs' ++ ys')
    (hys : ∀ c ∈ ys, p c = true) (hxs : ∀ c, xs.getLast? = some c → p c = false)
    (hys' : ∀ c ∈ ys', p c = true) (hxs' : ∀ c, xs'.getLast? = some c → p c = false) :
    xs = xs' ∧ ys = ys' := by
  have hrun : ∀ {xs ys : List Char}, (∀ c ∈ ys, p c = true) →
      (∀ c, xs.getLast? = some c → p c = false) → (xs ++ ys).reverse.takeWhile p = ys.reverse := by
    intro xs ys hys hxs
    rw [List.reverse_append]
    exact takeWhile_run (by simpa using hys) (by simpa using hxs)
  have hequal : ys = ys' := by
    have hreverse := hrun hys hxs
    rw [h, hrun hys' hxs'] at hreverse
    exact (List.reverse_injective hreverse).symm
  subst hequal
  exact ⟨List.append_cancel_right h, rfl⟩

/-- The text of a block, with the break that ends its last line. -/
def closed (cs : List Char) : List Char :=
  if cs.getLast?.any isBreak then cs else cs ++ ['\n']

/-- What the header says about the end of a text. -/
def chompingOf (cs : List Char) : Chomping :=
  match cs.reverse with
  | [] => .strip
  | last :: before =>
    if !isBreak last then .strip
    else match before with
      | [] => .keep
      | c :: _ => if isBreak c then .keep else .clip

def Chomping.mark : Chomping → List Char
  | .strip => ['-']
  | .clip => []
  | .keep => ['+']

/-- The breaks after the last line that belong to the text. -/
def kept (chomping : Chomping) (lines : Lines) (breaks : List Char) : List Char :=
  match chomping with
  | .strip => []
  | .clip => lines.ending.toList
  | .keep => lines.ending.toList ++ breaks

theorem chomping_toList (cs : List Char) :
    (Printer.chomping cs).toList = (chompingOf cs).mark := by
  rw [Printer.chomping, chompingOf]
  cases cs.reverse with
  | nil => rfl
  | cons last before =>
      cases hlast : isBreak last with
      | false => simp [hlast, Chomping.mark]
      | true =>
          cases before with
          | nil => simp [hlast, Chomping.mark]
          | cons c before => cases hc : isBreak c <;> simp [hlast, hc, Chomping.mark]

/-- How the reading of a text is split between lines and breaks is determined by the text. -/
theorem ReadAs.split {text run : List Char} {lines : Lines} {breaks : List Char}
    (h : ReadAs (text ++ run) lines breaks) (hrun : ∀ c ∈ run, isBreak c = true)
    (htext : ∀ c, text.getLast? = some c → isBreak c = false) :
    lines.text.reverse = text ∧ lines.ending.toList ++ breaks = run :=
  trailing_unique h.whole h.breaks (by simpa [LineNext] using h.last) hrun htext

/-- The text of the lines and breaks that the header keeps is the text that was written. -/
theorem ReadAs.kept {cs : List Char} {lines : Lines} {breaks : List Char}
    (h : ReadAs (closed cs) lines breaks) :
    lines.text.reverse ++ kept (chompingOf cs) lines breaks = cs := by
  obtain hnil | ⟨before, last, rfl⟩ := List.eq_nil_or_concat cs
  · subst hnil
    have hlines : ReadAs ([] ++ ['\n']) lines breaks := h
    have hsplit := hlines.split (by simp [isBreak]) (by simp)
    simpa [chompingOf, Block.kept] using hsplit.1
  · have hlast : closed (before ++ [last]) =
        if isBreak last then before ++ [last] else before ++ [last] ++ ['\n'] := by
      rw [closed, List.getLast?_concat, Option.any_some]
    rw [List.concat_eq_append] at h ⊢
    rw [hlast] at h
    rw [chompingOf, List.reverse_append]
    simp only [List.reverse_singleton, List.singleton_append]
    cases hbreak : isBreak last with
    | false =>
        rw [hbreak] at h
        have hsplit := ReadAs.split h (by simp [isBreak]) (by simpa using hbreak)
        simpa [Block.kept] using hsplit.1
    | true =>
        rw [hbreak, if_pos rfl] at h
        cases hbefore : before.reverse with
        | nil => simpa [Block.kept] using h.whole
        | cons c more =>
            cases hc : isBreak c with
            | true => simpa [Block.kept, hc] using h.whole
            | false =>
                have hfirst : before.getLast? = some c := by
                  rw [List.getLast?_eq_head?_reverse, hbefore, List.head?_cons]
                obtain ⟨htext, hends⟩ := ReadAs.split h (by simpa using hbreak)
                  (by simpa [hfirst] using hc)
                cases hending : lines.ending with
                | none =>
                    rw [h.none hending] at htext
                    simp [← htext] at hbefore
                | some b =>
                    rw [hending] at hends
                    simp only [Option.toList_some, List.cons_append, List.cons.injEq] at hends
                    simp [Block.kept, hc, htext, hending, hends.1]

theorem literalLines_concat {b : Char} (hb : isBreak b = true) (k : Nat) (lineStart : Bool)
    (cs : List Char) :
    (Printer.literalLines k lineStart (cs ++ [b])).toList =
      (Printer.literalLines k lineStart cs).toList ++ [b] := by
  induction cs generalizing lineStart with
  | nil => simp [Printer.literalLines, hb]
  | cons c cs ih =>
      rw [List.cons_append, Printer.literalLines, Printer.literalLines]
      split <;> simp [ih]

theorem literal_toList (k : Nat) (cs : List Char) :
    (Printer.literal k cs).toList =
      (Printer.literalHeader cs).toList ++
        '\n' :: (Printer.literalLines k true (closed cs)).toList := by
  rw [Printer.literal, closed]
  split
  · simp
  · simp [literalLines_concat (show isBreak '\n' = true from rfl)]

theorem readHeader_marks (given : Bool) (chomping : Chomping) (rest : List Char) :
    readHeader ((if given then ['2'] else []) ++ (chomping.mark ++ '\n' :: rest)) =
      some (⟨chomping, if given then some 2 else none⟩, '\n' :: rest) := by
  cases given <;> cases chomping <;> rfl

theorem ended_closed (cs : List Char) : Ended (closed cs) := by
  intro hne
  rw [closed]
  split
  · assumption
  · rw [List.getLast?_concat]
    rfl

theorem standing_of_printable {cs : List Char} (hprint : Printable cs) : Standing cs :=
  fun c hc hbreak => isBreak_of_isPrintable (hprint c hc) hbreak

theorem printable_closed {cs : List Char} (hprint : Printable cs) : Printable (closed cs) := by
  rw [closed]
  split
  · exact hprint
  · intro c hc
    rcases List.mem_append.mp hc with hc | hc
    · exact hprint c hc
    · rw [List.mem_singleton.mp hc]
      decide

theorem closed_ne_nil {cs : List Char} (hne : cs ≠ []) : closed cs ≠ [] := by
  rw [closed]
  split <;> simp [hne]

/-- A literal block ends with a line break. -/
theorem exists_last_break (k : Nat) {cs : List Char} (hprint : Printable cs) (hne : cs ≠ []) :
    ∃ text b, (Printer.literal k cs).toList = text ++ [b] ∧ isBreak b = true ∧ b ≠ '\r' := by
  have hclosed := closed_ne_nil hne
  obtain ⟨before, b, hsplit⟩ := (List.eq_nil_or_concat (closed cs)).resolve_left hclosed
  rw [List.concat_eq_append] at hsplit
  have hb : isBreak b = true := by
    have hlast := ended_closed cs hclosed
    rwa [hsplit, List.getLast?_concat] at hlast
  refine ⟨(Printer.literalHeader cs).toList ++
    '\n' :: (Printer.literalLines k true before).toList, b, ?_, hb, ?_⟩
  · rw [literal_toList, hsplit, literalLines_concat hb]
    simp
  · rintro rfl
    have hcarriage := printable_closed hprint '\r' (by simp [hsplit])
    revert hcarriage
    decide

theorem head?_closed {cs : List Char} (hne : cs ≠ []) : (closed cs).head? = cs.head? := by
  rw [closed]
  split
  · rfl
  · exact List.head?_append_of_ne_nil _ hne

section

variable {k column : Nat} {rest : List Char}

/-- The lines of a text, after those empty lines that it begins with. -/
theorem readLines_whole (hcolumn : column < k) (hrest : InkNext rest) {run more : List Char}
    (hstanding : Standing (run ++ more)) (hrun : ∀ c ∈ run, isBreak c = true)
    (hnext : LineNext more) (hended : Ended (run ++ more)) :
    ∃ after breaks, readLines true k ((entered k column rest more).2.length + 1) ⟨[], none, false⟩
        run (entered k column rest more).1 (entered k column rest more).2 =
        some (after, breaks, rest, column) ∧
      ReadAs (run ++ more) after breaks := by
  have hstart : ReadAs run ⟨[], none, false⟩ run := ⟨rfl, nofun, hrun, fun _ => rfl⟩
  refine readLines_reads hcolumn hrest hstanding.of_append hnext hended.of_append hstart ?_
  cases more with
  | nil => simp
  | cons c more =>
      have hlength := length_literalLines (k := k) false (c :: more)
      simp only [entered, List.length_append]
      omega

/-- Without a limit all spaces before the first line are taken. -/
theorem emptyLines_detects {n fuel : Nat} {text : List Char} (hink : InkNext text) :
    emptyLines none [] 0 (fuel + 1) (spaces n ++ text) = some ([], max 0 n, n, text) := by
  have hnext : LineNext text := fun c hc => (isInk_iff.mp (hink c hc)).2
  have htab : text.head? ≠ some '\t' := fun htab => absurd (hink _ htab) (by decide)
  have hspaces : (spaces n ++ text).takeWhile (· == ' ') = spaces n := by
    refine takeWhile_run (fun d hd => by simpa using eq_of_mem_spaces hd) ?_
    rintro c hc
    simpa using fun heq : c = ' ' => absurd (hink c hc) (by rw [heq]; decide)
  have htake : takeSpaces none (spaces n ++ text) = (n, text) := by
    simp only [takeSpaces, hspaces, length_spaces]
    rw [List.drop_left' (length_spaces n)]
  rw [emptyLines]
  simp [htake, takeBreak?_eq_none hnext, htab]

/-- The empty lines that a text begins with are read, and the width of the block is known: from the
header, or from the first line if that begins with no blank. -/
theorem emptyLines_first {indent : Int} (hk : indent + 2 = k) (hcolumn : column < k)
    (hrest : InkNext rest) {cs : List Char} (hne : cs ≠ [])
    (hprint : Printable cs) {given : Bool}
    (hgiven : given = cs.head?.any fun c => c == ' ' || isBreak c) {fuel : Nat}
    (hfuel : cs.length < fuel) :
    ∃ run more widest, cs = run ++ more ∧ (∀ c ∈ run, isBreak c = true) ∧ LineNext more ∧
      emptyLines (if given then some k else none) [] 0 fuel
          ((Printer.literalLines k true cs).toList ++ (spaces column ++ rest)) =
        some (run, widest, (entered k column rest more).1, (entered k column rest more).2) ∧
      (if given then some k else none).getD (max (max widest (indent + 1).toNat) 1) = k := by
  cases given with
  | true =>
      obtain ⟨run, more, rfl, hrun, hmore⟩ := exists_run isBreak cs
      have hstands : ∀ c ∈ run, c = '\n' ∨ c = '\u2028' ∨ c = '\u2029' := fun c hc =>
        isBreak_of_isPrintable (hprint c (by simp [hc])) (hrun c hc)
      obtain ⟨widest, hempty⟩ := emptyLines_entered hcolumn hrest hstands hmore
        (show run.length < fuel by simp at hfuel; omega)
      refine ⟨run, more, widest, rfl, hrun, hmore, ?_, rfl⟩
      rw [literalLines_breaks hrun, List.append_assoc]
      exact hempty
  | false =>
      obtain ⟨fuel, rfl⟩ := Nat.exists_eq_add_one_of_ne_zero (Nat.ne_zero_of_lt hfuel)
      have hnext : LineNext cs := by
        intro c hc
        rw [hc, Option.any_some, eq_comm, Bool.or_eq_false_iff] at hgiven
        exact hgiven.2
      refine ⟨[], cs, max 0 k, rfl, nofun, hnext, ?_, by simp; omega⟩
      rw [literalLines_entered hnext]
      cases cs with
      | nil => exact absurd rfl hne
      | cons c cs =>
          have hbreak : isBreak c = false := hnext c rfl
          have hblank : isBlank c = false := by
            cases hblank : isBlank c with
            | false => rfl
            | true =>
                rw [isBlank_of_isPrintable (hprint c (by simp)) hblank] at hgiven
                simp at hgiven
          refine emptyLines_detects ?_
          have hhead : (entered k column rest (c :: cs)).2.head? = some c := by
            simp [entered, Printer.literalLines, hbreak]
          intro d hd
          rw [hhead] at hd
          exact Option.some.inj hd ▸ isInk_iff.mpr ⟨hblank, hbreak⟩

/-- A text is read back from its literal block. -/
theorem read_literal {indent : Int} (hindent : 0 ≤ indent) (hk : indent + 2 = k)
    (hcolumn : column < k) (hrest : InkNext rest) {cs : List Char}
    (hprint : Printable cs) (hne : cs ≠ []) :
    ∃ body, (Printer.literal k cs).toList = '|' :: body ∧
      read true indent (body ++ (spaces column ++ rest)) = some (String.ofList cs, rest) := by
  obtain ⟨given, hgiven⟩ : ∃ given, given = cs.head?.any fun c => c == ' ' || isBreak c := ⟨_, rfl⟩
  have hprint := printable_closed hprint
  have hended := ended_closed cs
  have hclosed := closed_ne_nil hne
  have hwidth : (max indent 0).toNat + 2 = k := by omega
  refine ⟨(if given then ['2'] else []) ++ ((chompingOf cs).mark ++
    '\n' :: (Printer.literalLines k true (closed cs)).toList), ?_, ?_⟩
  · have htwo : (if given then "2" else "").toList = if given then ['2'] else [] := by
      split <;> rfl
    rw [literal_toList, Printer.literalHeader, ← hgiven, String.toList_append,
      String.toList_append, chomping_toList, htwo]
    simp
  · rw [List.append_assoc, List.append_assoc, List.cons_append, read, readHeader_marks]
    simp only [Option.bind_eq_bind, Option.bind_some, takeBreak?_break (.inl rfl)]
    rw [← head?_closed hne] at hgiven
    have hmap : (if given then some 2 else none).map (fun n => (max indent 0).toNat + n) =
        if given then some k else none := by
      cases given <;> simp [hwidth]
    have hlength := length_literalLines (k := k) true (closed cs)
    obtain ⟨run, more, widest, hsplit, hrun, hmore, hempty, hgetD⟩ :=
      emptyLines_first hk hcolumn hrest hclosed hprint hgiven
        (show (closed cs).length < ((Printer.literalLines k true (closed cs)).toList ++
          (spaces column ++ rest)).length + 1 by simp; omega)
    rw [hsplit] at hprint hended
    obtain ⟨after, breaks, hlines, hreads⟩ :=
      readLines_whole hcolumn hrest (standing_of_printable hprint) hrun hmore hended
    rw [hmap, hempty, Option.bind_some]
    simp only [hgetD]
    rw [hlines, Option.bind_some]
    rw [← hsplit] at hreads
    exact congrArg (fun text => some (String.ofList text, rest)) hreads.kept

end

end BroadcastFilter.Yaml.Block
