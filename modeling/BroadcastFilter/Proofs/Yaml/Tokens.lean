import BroadcastFilter.Proofs.Yaml.Printed
import BroadcastFilter.Proofs.Yaml.Scalar

/-!
The tokens of printed text. A value under a key is read from behind the colon up to the next line; a
record from its first key on. From the values of a record's entries follows the record, and from its
records a list.
-/

namespace BroadcastFilter.Yaml

open Json Lexer

/-- A value that stands under a key is read as its tokens. -/
def Enters (v : Value) : Prop :=
  ∀ (s : Lexer) (rest : List Char) (column after n : Nat) (l : Layout),
    s.Stands ((renderEntry column v).toList ++ (spaces n ++ rest)) after false l →
    column < after → l.indent = column → n ≤ column → Fresh rest →
    ∃ u, s.Leads u ∧ u.Settled rest n true ((l.emit (Printer.tokens v)).close n)

section

variable {s : Lexer} {rest : List Char} {column after n : Nat} {l : Layout}

/-- A value that stands on its key's line begins one column after the colon. -/
theorem settled_value {text : List Char} (h : s.Stands (' ' :: text) after false l)
    (hafter : column < after) (hindent : l.indent = column) (hfresh : Fresh text) :
    s.Settled text (after + 1) false l := by
  have hsame := Stands.settled_same (show s.Stands (spaces 1 ++ text) after false l from h) hfresh
  rwa [Layout.close_of_le (by omega)] at hsame

end

/-- Text that can stand as a plain scalar. -/
structure Plainly (cs : List Char) : Prop where
  flows : Plain.Flows cs
  word : Plain.WordNext cs
  begins : ∀ c rest, cs = c :: rest → BeginsPlain c rest
  printable : Printable cs

theorem Plainly.fresh {cs : List Char} (h : Plainly cs) (rest : List Char) :
    Fresh (cs ++ rest) := by
  cases cs with
  | nil => exact h.word.elim
  | cons c cs =>
      refine fresh_cons h.word.1 h.word.2 ?_
      rintro rfl
      exact absurd (h.printable _ List.mem_cons_self) (by decide)

theorem enters_plain {v : Value} {text : String}
    (hrender : ∀ column, renderEntry column v = " " ++ text ++ "\n")
    (htokens : Printer.tokens v = [.scalar text .plain]) (hplain : Plainly text.toList) :
    Enters v := by
  intro s rest column after n l h hafter hindent hn hfresh
  have htext : (renderEntry column v).toList ++ (spaces n ++ rest) =
      ' ' :: (text.toList ++ '\n' :: (spaces n ++ rest)) := by
    rw [hrender]
    simp
  rw [htext] at h
  have hsettled := settled_value h hafter hindent (hplain.fresh _)
  rw [htokens, ← String.ofList_toList (s := text)]
  generalize text.toList = cs at hsettled hplain
  cases cs with
  | nil => exact hplain.word.elim
  | cons c cs =>
      exact hsettled.plain (Nat.succ_ne_zero after) hplain.flows hplain.word
        (hplain.begins c cs rfl) (by omega) hfresh

theorem flows_of_ink {cs : List Char} (h : ∀ c ∈ cs, isInk c = true ∧ c ≠ ':') :
    Plain.Flows cs where
  chars c hc := .inl (h c hc).1
  colon before after heq := absurd rfl (h ':' (by simp [heq])).2
  comment before after heq := absurd (h ' ' (by simp [heq])).1 (by decide)
  last hlast := absurd (h ' ' (List.mem_of_getLast? hlast)).1 (by decide)

theorem plainly_of_wordChars {cs : List Char} (hne : cs ≠ [])
    (h : ∀ c ∈ cs, isWordChar c = true) : Plainly cs where
  flows := flows_of_ink fun c hc =>
    ⟨isInk_of_isWordChar (h c hc), ne_of_isWordChar (h c hc) (by decide)⟩
  word := by
    cases cs with
    | nil => exact absurd rfl hne
    | cons c cs =>
        have hc := h c List.mem_cons_self
        exact ⟨isInk_of_isWordChar hc, ne_of_isWordChar hc (by decide)⟩
  begins c rest heq := beginsPlain_of_isWordChar (h c (by simp [heq])) rest
  printable c hc := isPrintable_of_isWordChar (h c hc)

/-- A mark before digits, which are no blank. -/
theorem plainly_of_negative {c : Char} {cs : List Char} (h : ∀ d ∈ c :: cs, isWordChar d = true) :
    Plainly ('-' :: c :: cs) where
  flows := flows_of_ink <| List.forall_mem_cons.mpr ⟨by decide, fun d hd =>
    ⟨isInk_of_isWordChar (h d hd), ne_of_isWordChar (h d hd) (by decide)⟩⟩
  word := ⟨rfl, by decide⟩
  begins d rest heq := by
    obtain ⟨rfl, rfl⟩ := List.cons.inj heq
    exact ⟨rfl, .inr ⟨.inl rfl, (beginsPlain_of_isWordChar (h c (by simp)) cs).ink⟩⟩
  printable := List.forall_mem_cons.mpr ⟨by decide, fun d hd => isPrintable_of_isWordChar (h d hd)⟩

theorem plainly_whole (n : Int) : Plainly (Number.integer n).toText.toList := by
  rw [Printer.toList_whole]
  split
  · obtain ⟨c, cs, hdigits, h⟩ := Printer.exists_digits n.toNat
    rw [hdigits]
    exact plainly_of_wordChars (by simp) fun d hd => isWordChar_of_isDigit (h d hd)
  · obtain ⟨c, cs, hdigits, h⟩ := Printer.exists_digits (-n).toNat
    rw [hdigits]
    exact plainly_of_negative fun d hd => isWordChar_of_isDigit (h d hd)

theorem plainly_of_allowsPlain {cs : List Char} (hne : cs ≠ [])
    (h : (Shape.of cs).allowsPlain = true) : Plainly cs := by
  have hprint : Printable cs := by
    refine printable_of_unprintable ?_
    simp only [Shape.allowsPlain, Bool.not_eq_true', Bool.or_eq_false_iff] at h
    exact h.1.1.1.2
  refine ⟨Plain.flows_of_allowsPlain h, Plain.wordNext_of_allowsPlain h hne, ?_, hprint⟩
  rintro c rest rfl
  have hword := Plain.wordNext_of_allowsPlain h hne
  have hmarked := Plain.not_startsMarked_of_allowsPlain h
  have hink := isInk_iff.mp hword.1
  have hzero : c ≠ '\x00' := by
    rintro rfl
    exact absurd (hprint _ List.mem_cons_self) (by decide)
  refine ⟨by simp [isBlankOrEnd, hink, hzero], ?_⟩
  simp only [Shape.startsMarked, Bool.or_eq_false_iff, Bool.and_eq_false_iff] at hmarked
  obtain ⟨hlisted, hdash⟩ := hmarked
  by_cases hspecial : c = '-' ∨ c = '?' ∨ c = ':'
  · refine .inr ⟨hspecial, hdash.resolve_left ?_⟩
    rcases hspecial with rfl | rfl | rfl <;> decide
  · left
    simp only [not_or] at hspecial
    simp only [List.contains_eq_mem, List.mem_cons, decide_eq_false_iff_not, not_or] at hlisted
    simp [isIndicator, hlisted, hspecial]

theorem enters_bool (b : Bool) : Enters (.bool b) := by
  have hword : (if b then "true" else "false").toList.all isWordChar = true := by
    cases b <;> decide
  refine enters_plain (fun column => ?_) rfl
    (plainly_of_wordChars ?_ (List.all_eq_true.mp hword))
  · cases b <;> rfl
  · cases b <;> decide

theorem enters_whole (n : Int) : Enters (.number (.integer n)) :=
  enters_plain (fun _ => rfl) rfl (plainly_whole n)

theorem enters_quoted {v : Value} {single : Bool} {cs : List Char}
    (hrender : ∀ column, ∃ w, (renderEntry column v).toList =
        ' ' :: Quoted.quote single :: (w ++ [Quoted.quote single, '\n']) ∧
      Quoted.Written single w cs)
    (htokens : Printer.tokens v = [.scalar (String.ofList cs) (quotedStyle single)]) :
    Enters v := by
  intro s rest column after n l h hafter hindent hn hfresh
  obtain ⟨w, hw, hwritten⟩ := hrender column
  have htext : (renderEntry column v).toList ++ (spaces n ++ rest) =
      ' ' :: Quoted.quote single ::
        (w ++ Quoted.quote single :: '\n' :: (spaces n ++ rest)) := by
    rw [hw]
    simp
  have hquote : Fresh (Quoted.quote single ::
      (w ++ Quoted.quote single :: '\n' :: (spaces n ++ rest))) := by
    cases single <;> exact fresh_cons rfl (by decide) (by decide)
  rw [htext] at h
  rw [htokens]
  exact (settled_value h hafter hindent hquote).quoted (Nat.succ_ne_zero after) hwritten hfresh

theorem enters_literal {v : Value} {cs : List Char}
    (hrender : ∀ column, renderEntry column v = " " ++ Printer.literal (column + 2) cs)
    (htokens : Printer.tokens v = [.scalar (String.ofList cs) .literal])
    (hprint : Printable cs) (hne : cs ≠ []) : Enters v := by
  intro s rest column after n l h hafter hindent hn hfresh
  have htext : (renderEntry column v).toList ++ (spaces n ++ rest) =
      ' ' :: ((Printer.literal (column + 2) cs).toList ++ (spaces n ++ rest)) := by
    rw [hrender]
    simp
  have hbar : Fresh ((Printer.literal (column + 2) cs).toList ++ (spaces n ++ rest)) := by
    rw [Block.literal_toList, Printer.literalHeader]
    simp only [String.toList_append, List.append_assoc]
    exact fresh_cons rfl (by decide) (by decide)
  rw [htext] at h
  rw [htokens]
  exact (settled_value h hafter hindent hbar).literal (Nat.succ_ne_zero after) (by omega) (by omega)
    (by omega) hprint hne hfresh

theorem singly_of_allowsSingle {cs : List Char} (h : (Shape.of cs).allowsSingle = true)
    (hline : '\n' ∉ cs) : Quoted.Singly cs := by
  simp only [Shape.allowsSingle, Bool.not_eq_true', Bool.or_eq_false_iff] at h
  exact ⟨fun c hc => ⟨printable_of_unprintable h.1.1 c hc, fun heq => hline (heq ▸ hc)⟩, h.1.2, h.2⟩

/-- Each string is read as it was, in the style in which it was written. -/
theorem enters_string (s : String) : Enters (.string s) := by
  have hofList : String.ofList s.toList = s := String.ofList_toList
  rcases Printer.string_cases s with ⟨hstyle, hstring, hline, hliteral⟩ |
    ⟨hstyle, hstring, htext, hplain⟩ | ⟨hstyle, hstring, hline, hsingle⟩ | ⟨hstyle, hstring⟩
  case inl =>
    refine enters_literal (fun column => ?_) ?_ (printable_of_unprintable ?_)
      (List.ne_nil_of_mem hline)
    · rw [renderEntry, hstring]
    · rw [Printer.tokens, hstyle, hofList]
    · simp only [Shape.allowsLiteral, Bool.not_eq_true', Bool.or_eq_false_iff] at hliteral
      exact hliteral.1.1
  case inr.inl =>
    refine enters_plain (fun column => ?_) ?_ (plainly_of_allowsPlain ?_ hplain)
    · rw [renderEntry, hstring, String.append_assoc]
    · rw [Printer.tokens, hstyle]
    · intro hnil
      rw [String.toList_eq_nil_iff.mp hnil] at htext
      revert htext
      decide
  case inr.inr.inl =>
    have hsingly := singly_of_allowsSingle hsingle hline
    refine enters_quoted (fun column =>
      ⟨_, ?_, Quoted.written_single (Nat.succ_pos (column + 1)) hsingly⟩) ?_
    · simp [renderEntry, hstring, Quoted.quote]
    · rw [Printer.tokens, hstyle, hofList]
      rfl
  case inr.inr.inr =>
    refine enters_quoted (fun column => ⟨_, ?_, Quoted.written_double s.toList⟩) ?_
    · simp [renderEntry, hstring, Quoted.quote]
    · rw [Printer.tokens, hstyle, hofList]
      rfl

theorem Printer.IsWord.fresh {k : String} (h : Printer.IsWord k) (rest : List Char) :
    Fresh (k.toList ++ rest) :=
  (plainly_of_wordChars h.ne_nil h.chars).fresh rest

/-- After the colon of a key comes a blank or a line break. -/
theorem blankNext_renderEntry (column : Nat) (v : Value) (rest : List Char) :
    blankNext ((renderEntry column v).toList ++ rest) = true := by
  obtain _ | b | n | t | (_ | ⟨item, items⟩) | (_ | ⟨⟨k, w⟩, entries⟩) := v
  case bool => cases b <;> simp [renderEntry, blankNext, isBlankOrEnd, isBlank]
  all_goals
    simp only [renderEntry, String.toList_append, List.append_assoc]
    rfl

section

variable {s : Lexer} {rest : List Char} {column n : Nat} {l : Layout}

/-- The entries of a record, from the first key on. -/
theorem settled_entries {k : String} {v : Value} {more : List (String × Value)}
    (hwords : ∀ e ∈ (k, v) :: more, Printer.IsWord e.1) (hvalues : ∀ e ∈ (k, v) :: more, Enters e.2)
    (h : s.Settled (k.toList ++ ':' :: ((renderEntry column v).toList ++
      ((renderEntries column more).toList ++ (spaces n ++ rest)))) column true l)
    (hindent : l.indent ≤ column) (hn : n ≤ column) (hfresh : Fresh rest) :
    ∃ u, s.Leads u ∧ u.Settled rest n true
      (((l.opened column .blockMappingStart).emit
        (Printer.entryTokens ((k, v) :: more))).close n) := by
  induction more generalizing k v s l with
  | nil =>
      have hk := hwords (k, v) (by simp)
      obtain ⟨t, hkey, ht⟩ :=
        h.key hk.ne_nil hk.chars hk.short (blankNext_renderEntry _ _ _) hindent
      have htext : (renderEntries column []).toList ++ (spaces n ++ rest) = spaces n ++ rest := by
        simp [renderEntries]
      rw [htext] at ht
      obtain ⟨u, hvalue, hu⟩ := hvalues (k, v) (by simp) _ _ _ _ _ _ ht (by omega)
        (Layout.indent_opened hindent _) hn hfresh
      refine ⟨u, hkey.trans hvalue, ?_⟩
      rwa [Layout.emit_emit, String.ofList_toList, ← List.append_nil (Printer.tokens v)] at hu
  | cons next more ih =>
      obtain ⟨k', v'⟩ := next
      have hk := hwords (k, v) (by simp)
      have hk' := hwords (k', v') (by simp)
      obtain ⟨t, hkey, ht⟩ :=
        h.key hk.ne_nil hk.chars hk.short (blankNext_renderEntry _ _ _) hindent
      have htext : (renderEntries column ((k', v') :: more)).toList ++ (spaces n ++ rest) =
          spaces column ++ (k'.toList ++ ':' :: ((renderEntry column v').toList ++
            ((renderEntries column more).toList ++ (spaces n ++ rest)))) := by
        simp [renderEntries, hk'.key, toList_indentation]
      rw [htext] at ht
      obtain ⟨u, hvalue, hu⟩ := hvalues (k, v) (by simp) _ _ _ _ _ _ ht (by omega)
        (Layout.indent_opened hindent _) (Nat.le_refl _) (hk'.fresh _)
      have hopen := Layout.indent_opened hindent .blockMappingStart
      rw [Layout.close_of_le (by simp [hopen]), Layout.emit_emit, String.ofList_toList] at hu
      obtain ⟨w, hmore, hw⟩ := ih (fun e he => hwords e (by simp [he]))
        (fun e he => hvalues e (by simp [he])) hu (by simp [hopen])
      refine ⟨w, (hkey.trans hvalue).trans hmore, ?_⟩
      rw [Layout.opened_of_le (by simp [hopen]), Layout.emit_emit] at hw
      simpa [Printer.entryTokens] using hw

/-- One record in a list. Its block is closed where the next line begins. -/
theorem settled_item {record : List (String × Value)} (hne : record ≠ [])
    (hwords : ∀ e ∈ record, Printer.IsWord e.1) (hvalues : ∀ e ∈ record, Enters e.2)
    (h : s.Settled ('-' :: ' ' :: ((renderAt (column + 2) (.object record)).toList ++
      (spaces n ++ rest))) column true l)
    (hindent : l.indent = column) (hn : n ≤ column) (hfresh : Fresh rest) :
    ∃ u, s.Leads u ∧ u.Settled rest n true
      ((l.emit (.blockEntry :: Printer.tokens (.object record))).close n) := by
  obtain ⟨⟨k, v⟩, more, rfl⟩ := List.exists_cons_of_ne_nil hne
  have hk := hwords (k, v) (by simp)
  have htext : (renderAt (column + 2) (.object ((k, v) :: more))).toList ++ (spaces n ++ rest) =
      k.toList ++ ':' :: ((renderEntry (column + 2) v).toList ++
        ((renderEntries (column + 2) more).toList ++ (spaces n ++ rest))) := by
    simp [renderAt, hk.key]
  rw [htext] at h
  obtain ⟨t, hmark, ht⟩ := h.item (hk.fresh _) (by omega)
  rw [Layout.opened_of_le (by omega)] at ht
  obtain ⟨u, hentries, hu⟩ := settled_entries hwords hvalues ht (by rw [Layout.indent_emit]; omega)
    (by omega) hfresh
  refine ⟨u, hmark.trans hentries, ?_⟩
  rw [Layout.close_opened (by rw [Layout.indent_emit]; omega) (by omega), Layout.emit_emit] at hu
  exact hu

/-- The records of a list, from the first mark on. -/
theorem settled_items {record : List (String × Value)} {more : List (List (String × Value))}
    (hne : ∀ r ∈ record :: more, r ≠ [])
    (hwords : ∀ r ∈ record :: more, ∀ e ∈ r, Printer.IsWord e.1)
    (hvalues : ∀ r ∈ record :: more, ∀ e ∈ r, Enters e.2)
    (h : s.Settled ('-' :: ' ' :: ((renderAt (column + 2) (.object record)).toList ++
      ((renderItems column (more.map .object)).toList ++ (spaces n ++ rest)))) column true l)
    (hindent : l.indent = column) (hn : n ≤ column) (hfresh : Fresh rest) :
    ∃ u, s.Leads u ∧ u.Settled rest n true
      ((l.emit (Printer.itemTokens ((record :: more).map .object))).close n) := by
  induction more generalizing record s l with
  | nil =>
      have htext : (renderItems column []).toList ++ (spaces n ++ rest) = spaces n ++ rest := by
        simp [renderItems]
      rw [List.map_nil, htext] at h
      have hitem := settled_item (hne record (by simp)) (hwords record (by simp))
        (hvalues record (by simp)) h hindent hn hfresh
      simpa [Printer.itemTokens] using hitem
  | cons next more ih =>
      have htext : (renderItems column ((next :: more).map .object)).toList ++
            (spaces n ++ rest) =
          spaces column ++ ('-' :: ' ' :: ((renderAt (column + 2) (.object next)).toList ++
            ((renderItems column (more.map .object)).toList ++ (spaces n ++ rest)))) := by
        simp [renderItems, toList_indentation]
      rw [htext] at h
      obtain ⟨t, hitem, ht⟩ := settled_item (hne record (by simp)) (hwords record (by simp))
        (hvalues record (by simp)) h hindent (Nat.le_refl _)
        (fresh_cons rfl (by decide) (by decide))
      rw [Layout.close_of_le (by rw [Layout.indent_emit]; omega)] at ht
      obtain ⟨u, hmore, hu⟩ := ih (fun r hr => hne r (by simp [hr]))
        (fun r hr => hwords r (by simp [hr])) (fun r hr => hvalues r (by simp [hr])) ht
        (by rwa [Layout.indent_emit])
      refine ⟨u, hitem.trans hmore, ?_⟩
      simpa [Printer.itemTokens] using hu

end

/-- All values under keys are read as their tokens. -/
theorem enters_of_laid {v : Value} (h : Printer.Laid v) : Enters v := by
  induction h with
  | bool b => exact enters_bool b
  | whole n => exact enters_whole n
  | string s => exact enters_string s
  | @records records hne hwords _ hvalues =>
      intro s rest column after n l h hafter hindent hn hfresh
      cases records with
      | nil =>
          have htext : (renderEntry column (.array [])).toList ++ (spaces n ++ rest) =
              ' ' :: '[' :: ']' :: '\n' :: (spaces n ++ rest) := by
            simp [renderEntry]
          rw [List.map_nil, htext] at h
          have hsettled := settled_value h hafter hindent (fresh_cons rfl (by decide) (by decide))
          simpa [Printer.tokens] using hsettled.brackets (Nat.succ_ne_zero after) hfresh
      | cons record more =>
          have htext : (renderEntry column (.array ((record :: more).map .object))).toList ++
                (spaces n ++ rest) =
              '\n' :: (spaces column ++ '-' :: ' ' ::
                ((renderAt (column + 2) (.object record)).toList ++
                  ((renderItems column (more.map .object)).toList ++ (spaces n ++ rest)))) := by
            simp [renderEntry, toList_indentation]
          rw [htext] at h
          have hnext := h.settled_next (fresh_cons rfl (by decide) (by decide))
          rw [Layout.close_of_le (by omega)] at hnext
          have hitems := settled_items hne hwords hvalues hnext hindent hn hfresh
          simpa [Printer.tokens, Printer.itemTokens] using hitems

/-- At the end of a text the blocks are closed, and the stream ends. -/
theorem run_end {s : Lexer} {l : Layout} {fuel : Nat} (h : s.Settled [] 0 true l) :
    run (fuel + 1) s = (.streamEnd :: (l.close (-1)).tokens).reverse := by
  obtain ⟨t, hsettle, _, ht⟩ := h
  obtain ⟨held, hrun⟩ := run_settled hsettle fuel
  let last : Lexer := { t.closeTo (-1) with keyAllowed := false }.push .streamEnd
  have hstands : last.Stands [] 0 false ((l.close (-1)).emit [.streamEnd]) :=
    ((ht.closeTo (-1)).allow false).push .streamEnd
  have hfinish : t.finish = some { last with released := last.count } := by
    have hsame : ({ t with place := t.place } : Lexer) = t := rfl
    rw [finish, ht.column]
    simp only [if_true, Option.bind_eq_bind]
    rw [hsame, dropKey_of_keys (ht.closeTo (-1)).keys, Option.bind_some,
      dropStale_of_live (hstands.live _), Option.bind_some]
  rw [hrun, ht.rest]
  simp only [hfinish, List.isEmpty_nil, if_true, output, Nat.sub_self, List.drop_zero]
  exact congrArg (fun l : Layout => l.tokens.reverse) hstands.layout

theorem stands_start (cs : List Char) : (Lexer.start cs).Stands cs 0 true ⟨[], -1, []⟩ :=
  ⟨rfl, rfl, rfl, rfl, rfl, rfl⟩

/-- There are steps enough for a passage from the start to the end of a text. -/
theorem run_of_leads {cs : List Char} {u : Lexer} {l : Layout} (h : (Lexer.start cs).Leads u)
    (hu : u.Settled [] 0 true l) :
    run (cs.length + 2) (Lexer.start cs) = (.streamEnd :: (l.close (-1)).tokens).reverse := by
  obtain ⟨n, hn, hrun⟩ := h
  have hlength : (Lexer.start cs).place.rest.length = cs.length := rfl
  obtain ⟨fuel, hfuel⟩ : ∃ fuel, cs.length + 2 = fuel + 1 + n := ⟨cs.length + 1 - n, by omega⟩
  rw [hfuel, hrun, run_end hu]

/-- The tokens of a record as a document. -/
theorem run_render {record : Value} (h : Printer.LaidRecord record) :
    run ((render record).toList.length + 2) (Lexer.start (render record).toList) =
      Printer.tokens record ++ [.streamEnd] := by
  obtain ⟨hne, hwords, hlaid⟩ := h
  obtain ⟨⟨k, v⟩, more, rfl⟩ := List.exists_cons_of_ne_nil hne
  have hk := hwords (k, v) (by simp)
  have htext : (render (.object ((k, v) :: more))).toList =
      spaces 0 ++ (k.toList ++ ':' :: ((renderEntry 0 v).toList ++
        ((renderEntries 0 more).toList ++ (spaces 0 ++ [])))) := by
    simp [render, renderAt, hk.key]
  have hstart := stands_start (render (.object ((k, v) :: more))).toList
  rw [htext] at hstart ⊢
  have hsettled := hstart.settled_same (hk.fresh _)
  rw [Layout.close_of_le (by decide)] at hsettled
  obtain ⟨u, hleads, hu⟩ := settled_entries hwords (fun e he => enters_of_laid (hlaid e he))
    hsettled (by decide) (Nat.le_refl 0) fresh_nil
  rw [run_of_leads hleads hu]
  simp [Layout.opened, Layout.emit, Layout.close, Layout.closeFrom, Printer.tokens]

end BroadcastFilter.Yaml
