import BroadcastFilter.Proofs.Yaml.Lexer
import BroadcastFilter.Proofs.Yaml.Quoted

/-!
The tokens of scalars that stand as values. Each way of writing a scalar leads to the token of the
scalar and on to the next line, where blocks are closed that lie further right.
-/

namespace BroadcastFilter.Yaml.Lexer

variable {s : Lexer} {rest : List Char} {column n : Nat} {l : Layout}

theorem saveKey_of_not_allowed (h : s.keyAllowed = false) : s.saveKey = some s := by
  rw [saveKey, h]
  rfl

theorem BeginsPlain.append {c : Char} {cs : List Char} (h : BeginsPlain c cs) (rest : List Char) :
    BeginsPlain c (cs ++ rest) :=
  ⟨h.ink, h.mark.imp_right fun ⟨hc, hnext⟩ => ⟨hc, Plain.blankNext_append hnext rest⟩⟩

/-- A plain scalar; it ends where the next line begins. -/
theorem Settled.plain {c : Char} {cs : List Char}
    (h : s.Settled (c :: (cs ++ '\n' :: (spaces n ++ rest))) column false l) (hcolumn : column ≠ 0)
    (hflows : Plain.Flows (c :: cs)) (hword : Plain.WordNext (c :: cs)) (hbegins : BeginsPlain c cs)
    (hn : (n : Int) ≤ l.indent) (hfresh : Fresh rest) :
    ∃ u, s.Leads u ∧
      u.Settled rest n true ((l.emit [.scalar (String.ofList (c :: cs)) .plain]).close n) := by
  obtain ⟨u, hleads, hu⟩ : ∃ u, s.Leads u ∧
      u.Stands (spaces 0 ++ rest) n true (l.emit [.scalar (String.ofList (c :: cs)) .plain]) := by
    refine h.step fun t ht => ?_
    have hindent : t.indent = l.indent := congrArg Layout.indent ht.layout
    have hread : Plain.read t.inFlow t.indent t.place.rest = some ⟨c :: cs, true, rest⟩ := by
      rw [ht.rest, not_inFlow ht.keys, hindent]
      exact Plain.read_flows hflows hword hn hfresh.inkNext
    have hrest : t.place.rest = (c :: cs) ++ '\n' :: (spaces n ++ rest) := ht.rest
    obtain ⟨hgoRest, hgoColumn⟩ := Cursor.column_goTo hrest rfl (by decide)
    have hstands := ((ht.allow true).push
      (.scalar (String.ofList (c :: cs)) .plain)).goTo hgoRest hgoColumn
    refine ⟨_, ?_, ?_, hstands⟩
    · rw [tokenAt_plain ht.keys (hbegins.append _) fun hzero => absurd (ht.column ▸ hzero) hcolumn,
        Lexer.plain, saveKey_of_not_allowed ht.allowed, Option.bind_eq_bind, Option.bind_some,
        hread]
      rfl
    · rw [hstands.rest]
      simp
      omega
  exact ⟨u, hleads, hu.settled_same hfresh⟩

/-- The style of a scalar in quotes. -/
def quotedStyle (single : Bool) : Style := if single then .singleQuoted else .doubleQuoted

theorem tokenAt_quote {t : Lexer} (hcolumn : t.place.column ≠ 0) (single : Bool)
    (rest : List Char) :
    t.tokenAt (Quoted.quote single) rest =
      t.keyToken ((Quoted.read single rest).map fun (text, rest) =>
        (.scalar text (quotedStyle single), rest)) := by
  cases single <;> simp [tokenAt, Quoted.quote, quotedStyle, hcolumn]

/-- A scalar in quotes; its line ends after it. -/
theorem Settled.quoted {single : Bool} {w cs : List Char}
    (h : s.Settled (Quoted.quote single :: (w ++ Quoted.quote single :: '\n' :: (spaces n ++ rest)))
      column false l) (hcolumn : column ≠ 0) (hwritten : Quoted.Written single w cs)
    (hfresh : Fresh rest) :
    ∃ u, s.Leads u ∧
      u.Settled rest n true
        ((l.emit [.scalar (String.ofList cs) (quotedStyle single)]).close n) := by
  obtain ⟨u, hleads, hu⟩ : ∃ u, s.Leads u ∧ ∃ column', u.Stands ('\n' :: (spaces n ++ rest)) column'
      false (l.emit [.scalar (String.ofList cs) (quotedStyle single)]) := by
    refine h.step fun t ht => ?_
    have hread : Quoted.read single (w ++ Quoted.quote single :: '\n' :: (spaces n ++ rest)) =
        some (String.ofList cs, '\n' :: (spaces n ++ rest)) :=
      Quoted.read_written hwritten fun _ => by simp
    have hrest : t.place.rest = (Quoted.quote single :: (w ++ [Quoted.quote single])) ++
        '\n' :: (spaces n ++ rest) := by
      rw [ht.rest]
      simp
    have hstands := ((ht.allow false).push
      (.scalar (String.ofList cs) (quotedStyle single))).goTo (Cursor.rest_goTo hrest) rfl
    refine ⟨_, ?_, ?_, _, hstands⟩
    · rw [tokenAt_quote (by rwa [ht.column]), keyToken, saveKey_of_not_allowed ht.allowed, hread]
      rfl
    · rw [hstands.rest]
      simp
      omega
  obtain ⟨_, hu⟩ := hu
  exact ⟨u, hleads, hu.settled_next hfresh⟩

/-- A literal block; it ends where the next line begins. -/
theorem Settled.literal {k : Nat} {cs : List Char}
    (h : s.Settled ((Printer.literal k cs).toList ++ (spaces n ++ rest)) column false l)
    (hcolumn : column ≠ 0) (hindent : 0 ≤ l.indent) (hk : l.indent + 2 = k)
    (hn : (n : Int) ≤ l.indent) (hprint : Printable cs) (hne : cs ≠ [])
    (hfresh : Fresh rest) :
    ∃ u, s.Leads u ∧
      u.Settled rest n true ((l.emit [.scalar (String.ofList cs) .literal]).close n) := by
  obtain ⟨body, hbody, hread⟩ := Block.read_literal hindent hk (show n < k by omega)
    hfresh.inkNext hprint hne
  obtain ⟨text, b, htext, hb, hr⟩ := Block.exists_last_break k hprint hne
  obtain ⟨u, hleads, hu⟩ : ∃ u, s.Leads u ∧
      u.Stands (spaces 0 ++ rest) n true (l.emit [.scalar (String.ofList cs) .literal]) := by
    rw [hbody, List.cons_append] at h
    refine h.step fun t ht => ?_
    have hl : t.indent = l.indent := congrArg Layout.indent ht.layout
    have hrest : t.place.rest = text ++ b :: (spaces n ++ rest) := by
      rw [ht.rest, ← List.cons_append, ← hbody, htext, List.append_assoc, List.singleton_append]
    obtain ⟨hgoRest, hgoColumn⟩ := Cursor.column_goTo hrest hb hr
    have hstands := ((ht.allow true).push
      (.scalar (String.ofList cs) .literal)).goTo hgoRest hgoColumn
    refine ⟨_, ?_, ?_, hstands⟩
    · have hzero : t.place.column ≠ 0 := by rwa [ht.column]
      have htoken : t.tokenAt '|' (body ++ (spaces n ++ rest)) =
          t.block .literal (body ++ (spaces n ++ rest)) := by
        simp [tokenAt, hzero, not_inFlow ht.keys]
      rw [htoken, block, dropKey_of_keys ht.keys, Option.bind_eq_bind, Option.bind_some, hl]
      have hliteral : (Style.literal == Style.literal) = true := rfl
      rw [hliteral, hread]
      rfl
    · rw [hstands.rest]
      simp
      omega
  exact ⟨u, hleads, hu.settled_same hfresh⟩

/-- The lexer stands behind an opening bracket. -/
structure Bracketed (s : Lexer) (rest : List Char) (column : Nat) (l : Layout) : Prop where
  rest : s.place.rest = rest
  column : s.place.column = column
  keys : s.keys = [none, none]
  layout : s.layout = l
  count : s.count = l.tokens.length

theorem Settled.open (h : s.Settled ('[' :: rest) column false l) (hcolumn : column ≠ 0) :
    ∃ u, s.Leads u ∧ u.Bracketed rest (column + 1) (l.emit [.flowSequenceStart]) := by
  refine h.step fun t ht => ?_
  have hread : t.place.rest = ['['] ++ rest := ht.rest
  have hgo := Cursor.goTo_line hread (by simp [isBreak])
  let opened : Lexer :=
    { t with keys := none :: t.keys, keyAllowed := true }.pushTo .flowSequenceStart rest
  have hplace : opened.place = t.place.goTo rest := rfl
  have htoken : t.tokenAt '[' rest = some opened := by
    have hzero : t.place.column ≠ 0 := by rwa [ht.column]
    simp [tokenAt, hzero, openFlow, saveKey_of_not_allowed ht.allowed, opened]
  refine ⟨opened, htoken, Nat.le_of_eq (by rw [hplace, hgo]), by rw [hplace, hgo], ?_, ?_, ?_,
    ?_⟩
  · rw [hplace, hgo, ht.column]
    rfl
  · show none :: t.keys = _
    rw [ht.keys]
  · rw [← ht.layout]
    rfl
  · show t.count + 1 = _
    rw [ht.count]
    rfl

theorem closeTo_of_inFlow {limit : Int} (h : s.inFlow = true) : s.closeTo limit = s := by
  rw [closeTo, if_pos h]

theorem Bracketed.settle {c : Char} (h : s.Bracketed (c :: rest) column l)
    (hfresh : Fresh (c :: rest)) : ∃ t, s.settle = some t ∧ t.Bracketed (c :: rest) column l := by
  let t : Lexer :=
    { s.release with
      keyAllowed := s.keyAllowed
      place := ⟨c :: rest, s.place.index + 0, s.place.line, s.place.column + 0⟩ }
  have hskip := skipToToken_spaces s.inFlow s.keyAllowed s.place.rest.length
    (show s.place.rest = spaces 0 ++ c :: rest from h.rest) hfresh
  have hlive : ∀ c k, some k ∈ s.keys → isStale c k = false := by simp [h.keys]
  have hflow : t.inFlow = true := by
    show decide (1 < s.keys.length) = true
    rw [h.keys]
    rfl
  have hsettle : s.settle = some (t.closeTo t.place.column) :=
    settle_of_live hskip (hlive _) (hlive _)
  rw [closeTo_of_inFlow hflow] at hsettle
  exact ⟨t, hsettle, rfl, h.column, h.keys, h.layout, h.count⟩

theorem Bracketed.close (h : s.Bracketed (']' :: rest) column l) (hcolumn : column ≠ 0) :
    ∃ u, s.Leads u ∧ u.Stands rest (column + 1) false (l.emit [.flowSequenceEnd]) := by
  obtain ⟨t, hsettle, ht⟩ := h.settle (fresh_cons rfl (by decide) (by decide))
  have hread : t.place.rest = [']'] ++ rest := ht.rest
  have hgo := Cursor.goTo_line hread (by simp [isBreak])
  let closed : Lexer :=
    { t with keys := [none], keyAllowed := false }.pushTo .flowSequenceEnd rest
  have hplace : closed.place = t.place.goTo rest := rfl
  have htoken : t.tokenAt ']' rest = some closed := by
    have hzero : t.place.column ≠ 0 := by rwa [ht.column]
    have hflow : t.inFlow = true := by rw [inFlow, ht.keys]; rfl
    have hdrop : t.dropKey = some t := by rw [dropKey, ht.keys]
    simp [tokenAt, hzero, closeFlow, hdrop, hflow, ht.keys, closed]
  refine ⟨closed, leads_of_token hsettle hread htoken ?_ ?_, ?_⟩
  · rw [hread, h.rest]
    exact Nat.le_refl _
  · rw [hplace, hgo, hread]
    exact Nat.lt_succ_self _
  · refine ⟨by rw [hplace, hgo], by rw [hplace, hgo, ht.column]; rfl, rfl, rfl, ?_, ?_⟩
    · rw [← ht.layout]
      rfl
    · show t.count + 1 = _
      rw [ht.count]
      rfl

/-- Brackets around nothing. -/
theorem Settled.brackets (h : s.Settled ('[' :: ']' :: '\n' :: (spaces n ++ rest)) column false l)
    (hcolumn : column ≠ 0) (hfresh : Fresh rest) :
    ∃ u, s.Leads u ∧
      u.Settled rest n true ((l.emit [.flowSequenceStart, .flowSequenceEnd]).close n) := by
  obtain ⟨t, hopen, ht⟩ := h.open hcolumn
  obtain ⟨u, hclose, hu⟩ := ht.close (Nat.succ_ne_zero column)
  have hnext := hu.settled_next hfresh
  rw [Layout.emit_emit] at hnext
  exact ⟨u, hopen.trans hclose, hnext⟩

end BroadcastFilter.Yaml.Lexer
