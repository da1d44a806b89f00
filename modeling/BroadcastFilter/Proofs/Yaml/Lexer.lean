import BroadcastFilter.Proofs.Yaml.Block
import BroadcastFilter.Proofs.Yaml.Plain
import BroadcastFilter.Yaml.Token.Stream

/-!
How the reader of tokens goes from one token to the next. A reader that has come to a token has
passed the blanks before it, given up the keys that are none and closed the blocks that lie further
right; what it does from there on depends on the text that is left, the column, whether a key may
begin, and the open blocks. Steps are put together to passages, which take no more steps than they
take characters.
-/

namespace BroadcastFilter.Yaml

namespace Cursor

variable {c : Cursor} {rest : List Char}

theorem goTo_append {read : List Char} (h : c.rest = read ++ rest) :
    c.goTo rest = c.advance read.length := by
  rw [goTo, h, List.length_append, Nat.add_sub_cancel]

theorem advance_add (c : Cursor) (m n : Nat) : c.advance (m + n) = (c.advance m).advance n := by
  induction m generalizing c with
  | zero => rw [Nat.zero_add, advance]
  | succ m ih => rw [Nat.succ_add, advance, ih, advance]

theorem next_of_not_break {a : Char} (h : c.rest = a :: rest) (ha : isBreak a = false) :
    c.next = ⟨rest, c.index + 1, c.line, c.column + 1⟩ := by
  simp [next, h, ha]

theorem next_of_break {b : Char} (h : c.rest = b :: rest) (hb : isBreak b = true) (hr : b ≠ '\r') :
    c.next = ⟨rest, c.index + 1, c.line + 1, 0⟩ := by
  simp [next, h, hb, hr]

/-- Past characters of one line. -/
theorem advance_line {read : List Char} (h : c.rest = read ++ rest)
    (hread : ∀ a ∈ read, isBreak a = false) :
    c.advance read.length =
      ⟨rest, c.index + read.length, c.line, c.column + read.length⟩ := by
  induction read generalizing c with
  | nil =>
      subst h
      rfl
  | cons a read ih =>
      have hnext := next_of_not_break h (hread a (by simp))
      rw [List.length_cons, advance, hnext, ih rfl fun b hb => hread b (by simp [hb])]
      simp only [Cursor.mk.injEq, true_and]
      omega

theorem rest_next {a : Char} (h : c.rest = a :: rest) : c.next.rest = rest := by
  rw [next, h]
  simp only
  split <;> rfl

theorem rest_advance {read : List Char} (h : c.rest = read ++ rest) :
    (c.advance read.length).rest = rest := by
  induction read generalizing c with
  | nil => exact h
  | cons a read ih => exact ih (rest_next h)

theorem spaces_not_break {n : Nat} : ∀ a ∈ spaces n, isBreak a = false := by
  intro a ha
  rw [eq_of_mem_spaces ha]
  rfl

theorem goTo_line {read : List Char} (h : c.rest = read ++ rest)
    (hread : ∀ a ∈ read, isBreak a = false) :
    c.goTo rest = ⟨rest, c.index + read.length, c.line, c.column + read.length⟩ := by
  rw [goTo_append h, advance_line h hread]

theorem rest_goTo {read : List Char} (h : c.rest = read ++ rest) : (c.goTo rest).rest = rest := by
  rw [goTo_append h, rest_advance h]

/-- Past text that ends with a break and an indentation. -/
theorem column_goTo {read : List Char} {b : Char} {n : Nat}
    (h : c.rest = read ++ b :: (spaces n ++ rest)) (hb : isBreak b = true) (hr : b ≠ '\r') :
    (c.goTo rest).rest = rest ∧ (c.goTo rest).column = n := by
  have hwhole : c.rest = (read ++ b :: spaces n) ++ rest := by simp [h]
  have hrest := rest_advance h
  have hnext := next_of_break hrest hb hr
  have hstart : (c.advance read.length).next.rest = spaces n ++ rest := by rw [hnext]
  have hline := advance_line hstart spaces_not_break
  rw [goTo_append hwhole, List.length_append, List.length_cons, length_spaces, advance_add, advance]
  rw [length_spaces] at hline
  rw [hline, hnext]
  simp

end Cursor

/-- Tokens so far, the last one first, and the columns of the open blocks. -/
structure Layout where
  tokens : List Token
  indent : Int
  outer : List Int

namespace Layout

/-- With the blocks closed that lie right of a column. -/
def closeFrom (column : Int) (tokens : List Token) (indent : Int) : List Int → Layout
  | [] => ⟨tokens, indent, []⟩
  | next :: outer =>
    if column < indent then closeFrom column (.blockEnd :: tokens) next outer
    else ⟨tokens, indent, next :: outer⟩

def close (l : Layout) (column : Int) : Layout := closeFrom column l.tokens l.indent l.outer

/-- With further tokens. -/
def emit (l : Layout) (ts : List Token) : Layout := { l with tokens := ts.reverse ++ l.tokens }

/-- With a block open at a column; its token is there if the block was not. -/
def opened (l : Layout) (column : Nat) (t : Token) : Layout :=
  if l.indent < (column : Int) then ⟨t :: l.tokens, column, l.indent :: l.outer⟩ else l

variable {l : Layout} {column : Int}

theorem close_of_le (h : l.indent ≤ column) : l.close column = l := by
  obtain ⟨tokens, indent, outer⟩ := l
  cases outer with
  | nil => rfl
  | cons next outer => exact if_neg (Int.not_lt.mpr h)

theorem close_inner {tokens : List Token} {inner indent : Int} {outer : List Int}
    (h : column < inner) :
    (⟨tokens, inner, indent :: outer⟩ : Layout).close column =
      (⟨.blockEnd :: tokens, indent, outer⟩ : Layout).close column :=
  if_pos h

@[simp] theorem indent_emit (l : Layout) (ts : List Token) : (l.emit ts).indent = l.indent := rfl

@[simp] theorem emit_emit (l : Layout) (first second : List Token) :
    (l.emit first).emit second = l.emit (first ++ second) := by
  simp [emit]

theorem opened_of_le {column : Nat} (h : (column : Int) ≤ l.indent) (t : Token) :
    l.opened column t = l :=
  if_neg (Int.not_lt.mpr h)

theorem indent_opened {column : Nat} (h : l.indent ≤ column) (t : Token) :
    (l.opened column t).indent = column := by
  rw [opened]
  split
  · rfl
  · omega

/-- A block that was opened is closed before a column that lies further left. -/
theorem close_opened {column : Nat} {limit : Int} (hopen : l.indent < column)
    (hclose : limit < column) (t : Token) (ts : List Token) :
    ((l.opened column t).emit ts).close limit =
      (l.emit (t :: (ts ++ [.blockEnd]))).close limit := by
  rw [opened, if_pos hopen]
  show (⟨ts.reverse ++ t :: l.tokens, column, l.indent :: l.outer⟩ : Layout).close limit = _
  rw [close_inner hclose]
  simp [emit]

end Layout

namespace Lexer

def layout (s : Lexer) : Layout := ⟨s.tokens, s.indent, s.outerIndents⟩

/-- Brings the lexer to the next token. -/
def settle (s : Lexer) : Option Lexer :=
  s.dropStale.bind fun s =>
    let skipped := skipToToken s.inFlow (s.place.rest.length + 1) s.keyAllowed s.place
    ({ s.release with keyAllowed := skipped.1, place := skipped.2 } : Lexer).dropStale.map
      fun next => next.closeTo skipped.2.column

theorem closeBlocks_eq (column indent : Int) (outer : List Int) (s : Lexer) :
    (closeBlocks column indent outer s).place = s.place ∧
      (closeBlocks column indent outer s).keys = s.keys ∧
      (closeBlocks column indent outer s).keyAllowed = s.keyAllowed ∧
      (closeBlocks column indent outer s).layout =
        Layout.closeFrom column s.tokens indent outer ∧
      (s.count = s.tokens.length → (closeBlocks column indent outer s).count =
        (closeBlocks column indent outer s).tokens.length) := by
  induction outer generalizing indent s with
  | nil => exact ⟨rfl, rfl, rfl, rfl, id⟩
  | cons next outer ih =>
      rw [closeBlocks, Layout.closeFrom]
      split
      · obtain ⟨hplace, hkeys, hallowed, hlayout, hcount⟩ := ih next (s.push .blockEnd)
        exact ⟨hplace, hkeys, hallowed, hlayout, fun h => hcount (by simp [push, h])⟩
      · exact ⟨rfl, rfl, rfl, rfl, id⟩

theorem dropStale_eq {s t : Lexer} (h : s.dropStale = some t) :
    t = { s with keys := t.keys } := by
  rw [dropStale] at h
  split at h
  · cases h
  · cases h
    rfl

theorem place_closeTo (s : Lexer) (column : Int) : (s.closeTo column).place = s.place := by
  rw [closeTo]
  split
  · rfl
  · exact (closeBlocks_eq column s.indent s.outerIndents s).1

/-- A step comes to the next token and reads it. If there is none, the end of the text is read. -/
theorem run_settled {s t : Lexer} (hsettle : s.settle = some t) (fuel : Nat) :
    ∃ held : Lexer, run (fuel + 1) s =
      match (match t.place.rest with
        | [] => t.finish
        | a :: rest => t.tokenAt a rest) with
      | none => held.output
      | some u => if t.place.rest.isEmpty then u.output else run fuel u := by
  rw [settle, Option.bind_eq_some_iff] at hsettle
  obtain ⟨first, hfirst, hsettle⟩ := hsettle
  refine ⟨first.release, ?_⟩
  rw [run, hfirst]
  simp only at hsettle ⊢
  generalize skipToToken first.inFlow (first.place.rest.length + 1) first.keyAllowed
    first.place = skipped at hsettle ⊢
  obtain ⟨next, hnext, rfl⟩ := Option.map_eq_some_iff.mp hsettle
  have hplace : (next.closeTo skipped.2.column).place = skipped.2 := by
    rw [place_closeTo, dropStale_eq hnext]
  rw [hplace]
  obtain ⟨allowed, c⟩ := skipped
  simp only at hnext ⊢
  exact hnext ▸ rfl

/-- So many steps, no more than characters, lead from one state to another. -/
def Leads (s t : Lexer) : Prop :=
  ∃ n, n + t.place.rest.length ≤ s.place.rest.length ∧ ∀ fuel, run (fuel + n) s = run fuel t

theorem Leads.trans {s t u : Lexer} (h : s.Leads t) (h' : t.Leads u) : s.Leads u := by
  obtain ⟨m, hm, hrun⟩ := h
  obtain ⟨n, hn, hrun'⟩ := h'
  refine ⟨n + m, by omega, fun fuel => ?_⟩
  rw [← Nat.add_assoc, hrun, hrun']

theorem leads_of_token {s t u : Lexer} {a : Char} {rest : List Char} (hsettle : s.settle = some t)
    (hplace : t.place.rest = a :: rest) (htoken : t.tokenAt a rest = some u)
    (hfar : t.place.rest.length ≤ s.place.rest.length)
    (hnear : u.place.rest.length < t.place.rest.length) : s.Leads u := by
  refine ⟨1, by omega, fun fuel => ?_⟩
  obtain ⟨held, hrun⟩ := run_settled hsettle fuel
  rw [hrun, hplace]
  simp only [htoken]
  rfl

/-- What follows can be a token. -/
def Fresh (rest : List Char) : Prop :=
  ∀ c, rest.head? = some c → isInk c = true ∧ c ≠ '#' ∧ c ≠ '\ufeff'

theorem Fresh.inkNext {rest : List Char} (h : Fresh rest) : InkNext rest := fun c hc => (h c hc).1

theorem fresh_nil : Fresh [] := nofun

theorem fresh_cons {c : Char} {rest : List Char} (hink : isInk c = true) (hcomment : c ≠ '#')
    (hmark : c ≠ '\ufeff') : Fresh (c :: rest) := by
  rintro _ ⟨⟩
  exact ⟨hink, hcomment, hmark⟩

/-- The lexer has come to some place, outside of brackets, with no possible key. -/
structure Stands (s : Lexer) (rest : List Char) (column : Nat) (allowed : Bool) (l : Layout) :
    Prop where
  rest : s.place.rest = rest
  column : s.place.column = column
  allowed : s.keyAllowed = allowed
  keys : s.keys = [none]
  layout : s.layout = l
  count : s.count = l.tokens.length

/-- The next token is at some place. -/
def Settled (s : Lexer) (rest : List Char) (column : Nat) (allowed : Bool) (l : Layout) : Prop :=
  ∃ t, s.settle = some t ∧ rest.length ≤ s.place.rest.length ∧ t.Stands rest column allowed l

theorem dropStale_of_live {s : Lexer}
    (h : ∀ k, some k ∈ s.keys → isStale s.place k = false) : s.dropStale = some s := by
  have hnone : (s.keys.any fun k => k.any fun k => isStale s.place k && k.required) = false := by
    rw [List.any_eq_false]
    rintro (_ | k) hk
    · simp
    · simp [h k hk]
  have hsame : s.keys.map (fun k => k.filter fun k => !isStale s.place k) = s.keys := by
    rw [List.map_congr_left (g := id), List.map_id]
    rintro (_ | k) hk
    · rfl
    · simp [h k hk]
  rw [dropStale, hnone]
  simp [hsame]

/-- A lexer that gives up no key has only to skip what comes before the next token. -/
theorem settle_of_live {s : Lexer} {allowed : Bool} {c : Cursor}
    (hskip : skipToToken s.inFlow (s.place.rest.length + 1) s.keyAllowed s.place = (allowed, c))
    (hbefore : ∀ k, some k ∈ s.keys → isStale s.place k = false)
    (hafter : ∀ k, some k ∈ s.keys → isStale c k = false) :
    s.settle =
      some (({ s.release with keyAllowed := allowed, place := c } : Lexer).closeTo c.column) := by
  have hdrop : ({ s.release with keyAllowed := allowed, place := c } : Lexer).dropStale =
      some { s.release with keyAllowed := allowed, place := c } := dropStale_of_live hafter
  rw [settle, dropStale_of_live hbefore, Option.bind_some]
  simp only [hskip, hdrop, Option.map_some]

theorem skipToToken_spaces (flow allowed : Bool) (fuel : Nat) {n : Nat} {c : Cursor}
    {rest : List Char} (hrest : c.rest = spaces n ++ rest) (hfresh : Fresh rest) :
    skipToToken flow (fuel + 1) allowed c =
      (allowed, ⟨rest, c.index + n, c.line, c.column + n⟩) := by
  have hmark : (c.rest.head? == some '\ufeff') = false := by
    rw [hrest]
    cases n with
    | zero => simpa using fun heq => (hfresh _ heq).2.2 rfl
    | succ n => simp
  have hdrop :
      c.rest.dropWhile (fun a => a == ' ' || ((flow || !allowed) && a == '\t')) = rest := by
    rw [hrest]
    refine dropWhile_run (fun a ha => by simp [eq_of_mem_spaces ha]) fun a ha => ?_
    have hblank := (isInk_iff.mp (hfresh a ha).1).1
    simp only [isBlank, Bool.or_eq_false_iff] at hblank
    simp [hblank]
  have hcomment : (rest.head? == some '#') = false := by
    simpa using fun heq => (hfresh _ heq).2.1 rfl
  have hbreak : Block.takeBreak? rest = none :=
    Block.takeBreak?_eq_none fun a ha => (isInk_iff.mp (hfresh a ha).1).2
  have hgo := Cursor.goTo_line hrest Cursor.spaces_not_break
  rw [length_spaces] at hgo
  rw [skipToToken]
  simp only [hmark, Bool.and_false, Bool.false_eq_true, if_false, Cursor.skipWhile, hdrop, hgo,
    hcomment, hbreak]

theorem skipToToken_break (flow allowed : Bool) (fuel : Nat) {n : Nat} {c : Cursor}
    {rest : List Char} (hrest : c.rest = '\n' :: (spaces n ++ rest)) (hfresh : Fresh rest) :
    skipToToken flow (fuel + 2) allowed c =
      (allowed || !flow, ⟨rest, c.index + 1 + n, c.line + 1, n⟩) := by
  have hstay : c.goTo ('\n' :: (spaces n ++ rest)) = c := by
    rw [Cursor.goTo, hrest, Nat.sub_self]
    rfl
  have hfirst : c.goTo (spaces n ++ rest) = ⟨spaces n ++ rest, c.index + 1, c.line + 1, 0⟩ := by
    have hread : c.rest = ['\n'] ++ (spaces n ++ rest) := hrest
    rw [Cursor.goTo_append hread]
    exact Cursor.next_of_break hrest rfl (by decide)
  have hskip := skipToToken_spaces flow (allowed || !flow) fuel
    (show (c.goTo (spaces n ++ rest)).rest = spaces n ++ rest by rw [hfirst]) hfresh
  have htake : Block.takeBreak? ('\n' :: (spaces n ++ rest)) = some ('\n', spaces n ++ rest) := rfl
  rw [hfirst] at hskip
  rw [skipToToken]
  simp [Cursor.skipWhile, hrest, hstay, htake, hfirst, hskip]

section

variable {s : Lexer} {rest : List Char} {column : Nat} {allowed : Bool} {l : Layout}

theorem not_inFlow (h : s.keys = [none]) : s.inFlow = false := by
  rw [inFlow, h]
  rfl

/-- Closing blocks moves nothing but the blocks. -/
theorem Stands.closeTo (h : s.Stands rest column allowed l) (limit : Int) :
    (s.closeTo limit).Stands rest column allowed (l.close limit) := by
  obtain ⟨hplace, hkeys, hallowed, hlayout, hcount⟩ :=
    closeBlocks_eq limit s.indent s.outerIndents s
  have hl := h.layout
  have hclose : s.closeTo limit = closeBlocks limit s.indent s.outerIndents s := by
    rw [Lexer.closeTo, not_inFlow h.keys]
    rfl
  rw [hclose]
  have hlayout : (closeBlocks limit s.indent s.outerIndents s).layout = l.close limit := by
    rw [hlayout, ← hl]
    rfl
  refine ⟨by rw [hplace, h.rest], by rw [hplace, h.column], by rw [hallowed, h.allowed],
    by rw [hkeys, h.keys], hlayout, ?_⟩
  rw [hcount (by rw [h.count, ← hl]; rfl), ← hlayout]
  rfl

theorem Stands.live (h : s.Stands rest column allowed l) (c : Cursor) :
    ∀ k, some k ∈ s.keys → isStale c k = false := by
  simp [h.keys]

/-- The next token on the same line. -/
theorem Stands.settled_same {n : Nat} (h : s.Stands (spaces n ++ rest) column allowed l)
    (hfresh : Fresh rest) :
    s.Settled rest (column + n) allowed (l.close ((column + n : Nat) : Int)) := by
  have hcolumn := h.column
  subst hcolumn
  have hskip := skipToToken_spaces s.inFlow s.keyAllowed s.place.rest.length h.rest hfresh
  have hstands : ({ s.release with
      keyAllowed := s.keyAllowed
      place := ⟨rest, s.place.index + n, s.place.line, s.place.column + n⟩ } : Lexer).Stands
        rest (s.place.column + n) allowed l :=
    ⟨rfl, rfl, h.allowed, h.keys, h.layout, h.count⟩
  refine ⟨_, settle_of_live hskip (h.live _) (h.live _), ?_, hstands.closeTo _⟩
  rw [h.rest, List.length_append]
  omega

/-- The next token on the next line. -/
theorem Stands.settled_next {n : Nat} (h : s.Stands ('\n' :: (spaces n ++ rest)) column allowed l)
    (hfresh : Fresh rest) : s.Settled rest n true (l.close n) := by
  have hlength : s.place.rest.length + 1 = (spaces n ++ rest).length + 2 := by
    rw [h.rest, List.length_cons]
  have hskip := skipToToken_break s.inFlow s.keyAllowed (spaces n ++ rest).length h.rest hfresh
  rw [← hlength] at hskip
  have hallowed : (s.keyAllowed || !s.inFlow) = true := by
    rw [not_inFlow h.keys, Bool.not_false, Bool.or_true]
  have hstands : ({ s.release with
      keyAllowed := s.keyAllowed || !s.inFlow
      place := ⟨rest, s.place.index + 1 + n, s.place.line + 1, n⟩ } : Lexer).Stands
        rest n true l :=
    ⟨rfl, rfl, hallowed, h.keys, h.layout, h.count⟩
  refine ⟨_, settle_of_live hskip (h.live _) (h.live _), ?_, hstands.closeTo _⟩
  rw [h.rest, List.length_cons, List.length_append]
  omega

/-- Reading one token from where the lexer has come to. -/
theorem Settled.step {a : Char} {P : Lexer → Prop} (h : s.Settled (a :: rest) column allowed l)
    (htoken : ∀ t : Lexer, t.Stands (a :: rest) column allowed l →
      ∃ u, t.tokenAt a rest = some u ∧ u.place.rest.length ≤ rest.length ∧ P u) :
    ∃ u, s.Leads u ∧ P u := by
  obtain ⟨t, hsettle, hfar, ht⟩ := h
  obtain ⟨u, hu, hless, hstate⟩ := htoken t ht
  refine ⟨u, leads_of_token hsettle ht.rest hu (by rwa [ht.rest]) ?_, hstate⟩
  rw [ht.rest, List.length_cons]
  omega

theorem Stands.allow (h : s.Stands rest column allowed l) (allowed' : Bool) :
    ({ s with keyAllowed := allowed' } : Lexer).Stands rest column allowed' l :=
  ⟨h.rest, h.column, rfl, h.keys, h.layout, h.count⟩

theorem Stands.push (h : s.Stands rest column allowed l) (t : Token) :
    (s.push t).Stands rest column allowed (l.emit [t]) := by
  refine ⟨h.rest, h.column, h.allowed, h.keys, ?_, ?_⟩
  · rw [← h.layout]
    rfl
  · show s.count + 1 = _
    rw [h.count]
    rfl

theorem Stands.goTo {read : List Char} {n : Nat} (h : s.Stands read column allowed l)
    (hrest : (s.place.goTo rest).rest = rest) (hcolumn : (s.place.goTo rest).column = n) :
    ({ s with place := s.place.goTo rest } : Lexer).Stands rest n allowed l :=
  ⟨hrest, hcolumn, h.allowed, h.keys, h.layout, h.count⟩

/-- A token of one line. -/
theorem Stands.pushTo_line {read : List Char} (h : s.Stands (read ++ rest) column allowed l)
    (hread : ∀ a ∈ read, isBreak a = false) (t : Token) :
    (s.pushTo t rest).Stands rest (column + read.length) allowed (l.emit [t]) := by
  have hgo := Cursor.goTo_line (h.push t).rest hread
  exact (h.push t).goTo (by rw [hgo]) (by rw [hgo, (h.push t).column])

theorem Stands.openBlock (h : s.Stands rest column allowed l) (t : Token) :
    (s.openBlock s.place.column s.count t).Stands rest column allowed (l.opened column t) := by
  have hl := h.layout
  subst hl
  have hcolumn := h.column
  subst hcolumn
  rw [Lexer.openBlock, Layout.opened, not_inFlow h.keys]
  simp only [Bool.not_false, Bool.true_and, decide_eq_true_eq]
  by_cases hindent : s.indent < (s.place.column : Int)
  · rw [if_pos hindent, if_pos (show s.layout.indent < (s.place.column : Int) from hindent)]
    refine ⟨h.rest, rfl, h.allowed, h.keys, ?_, ?_⟩
    · simp only [insertAt, Nat.sub_self, List.take_zero, List.drop_zero, List.nil_append]
      rfl
    · show s.count + 1 = _
      rw [h.count]
      rfl
  · rw [if_neg hindent, if_neg (show ¬ s.layout.indent < (s.place.column : Int) from hindent)]
    exact h

theorem dropKey_of_keys (h : s.keys = [none]) : s.dropKey = some s := by
  rw [dropKey, h]

/-- The mark of an item. -/
theorem Settled.item (h : s.Settled ('-' :: ' ' :: rest) column true l) (hfresh : Fresh rest)
    (hindent : l.indent ≤ column) :
    ∃ u, s.Leads u ∧ u.Settled rest (column + 2) true
      ((l.opened column .blockSequenceStart).emit [.blockEntry]) := by
  have htoken : ∀ t : Lexer, t.Stands ('-' :: ' ' :: rest) column true l →
      ∃ u, t.tokenAt '-' (' ' :: rest) = some u ∧
        u.place.rest.length ≤ (' ' :: rest).length ∧
        u.Stands (spaces 1 ++ rest) (column + 1) true
          ((l.opened column .blockSequenceStart).emit [.blockEntry]) := by
    intro t ht
    have hopen := ht.openBlock .blockSequenceStart
    have hmark : (['-'] ++ ' ' :: rest) = '-' :: ' ' :: rest := rfl
    rw [← hmark] at hopen
    have hpush := (hopen.allow true).pushTo_line (by simp [isBreak]) .blockEntry
    refine ⟨_, ?_, Nat.le_of_eq (congrArg List.length hpush.rest), hpush⟩
    simp [tokenAt, blockEntry, blankNext, isBlankOrEnd, isBlank, Yaml.documentMark, ht.allowed,
      dropKey_of_keys hopen.keys]
  obtain ⟨u, hleads, hu⟩ := h.step htoken
  have hnext := hu.settled_same hfresh
  rw [Layout.close_of_le] at hnext
  · exact ⟨u, hleads, hnext⟩
  · rw [Layout.indent_emit, Layout.indent_opened hindent]
    omega

/-- The possible key that begins here. -/
def keyHere (t : Lexer) : PossibleKey :=
  ⟨t.count, t.place.index, t.place.line, t.place.column,
    !t.inFlow && t.indent == (t.place.column : Int)⟩

theorem Stands.saveKey (h : s.Stands rest column true l) :
    s.saveKey = some { s with keys := [some s.keyHere] } := by
  rw [Lexer.saveKey, if_pos h.allowed, dropKey_of_keys h.keys]
  simp [h.keys, keyHere]

/-- A word that may be a key has been read, and what follows is left. -/
structure Keyed (s : Lexer) (word rest : List Char) (column : Nat) (l : Layout) : Prop where
  place : ∃ index line, s.place = ⟨rest, index + word.length, line, column + word.length⟩ ∧
    ∃ required, s.keys = [some ⟨l.tokens.length, index, line, column, required⟩]
  allowed : s.keyAllowed = false
  layout : s.layout = l.emit [.scalar (String.ofList word) .plain]
  count : s.count = l.tokens.length + 1

/-- A plain scalar begins with a character and what follows it. -/
structure BeginsPlain (c : Char) (rest : List Char) : Prop where
  ink : isBlankOrEnd c = false
  mark : isIndicator c = false ∨ (c = '-' ∨ c = '?' ∨ c = ':') ∧ blankNext rest = false

theorem beginsPlain_of_isWordChar {c : Char} (hc : isWordChar c = true) (rest : List Char) :
    BeginsPlain c rest where
  ink := by
    have hink := isInk_iff.mp (isInk_of_isWordChar hc)
    simp [isBlankOrEnd, hink, ne_of_isWordChar hc (show isWordChar '\x00' = false by decide)]
  mark := by
    left
    have hne : ∀ d ∈ ['-', '?', ':', ',', '[', ']', '\x7b', '\x7d', '#', '&', '*', '!', '|', '>',
        '\'', '"', '%', '@', '\x60'], c ≠ d := ne_of_mem_of_isWordChar hc (by decide)
    simp only [List.forall_mem_cons] at hne
    simp [isIndicator, hne]

theorem tokenAt_plain {t : Lexer} {c : Char} (hkeys : t.keys = [none]) (hplain : BeginsPlain c rest)
    (hmark : t.place.column = 0 → Yaml.documentMark (c :: rest) = false) :
    t.tokenAt c rest = t.plain := by
  have hflow := not_inFlow hkeys
  have hdocument : ¬ (t.place.column = 0 ∧ Yaml.documentMark (c :: rest) = true) := by
    rintro ⟨hcolumn, hdocument⟩
    rw [hmark hcolumn] at hdocument
    cases hdocument
  obtain ⟨hink, hindicator | ⟨hc, hnext⟩⟩ := hplain
  · have hne := hindicator
    simp only [isIndicator, List.contains_eq_mem, List.mem_cons, decide_eq_false_iff_not,
      not_or] at hne
    simp [tokenAt, hflow, hdocument, hne, beginsPlain, hink, hindicator]
  · have hblank : rest.head?.any isBlank = false := by
      cases rest with
      | nil => rfl
      | cons d rest =>
          simp only [blankNext, isBlankOrEnd, Bool.or_eq_false_iff] at hnext
          exact hnext.1.1
    rcases hc with rfl | rfl | rfl <;>
      simp [tokenAt, hflow, hdocument, beginsPlain, hnext, hblank]

theorem Settled.word {c : Char} {word after : List Char}
    (h : s.Settled (c :: (word ++ ':' :: after)) column true l)
    (hword : ∀ d ∈ c :: word, isWordChar d = true) (hafter : blankNext after = true) :
    ∃ u, s.Leads u ∧ u.Keyed (c :: word) (':' :: after) column l := by
  refine h.step fun t ht => ?_
  have hc := hword c (by simp)
  have hcolon : ∀ d ∈ c :: word, isInk d = true ∧ d ≠ ':' := fun d hd =>
    ⟨isInk_of_isWordChar (hword d hd), ne_of_isWordChar (hword d hd) (by decide)⟩
  have hbegins : Plain.WordNext (c :: word) :=
    ⟨isInk_of_isWordChar hc, ne_of_isWordChar hc (by decide)⟩
  have hread : Plain.read false t.indent t.place.rest =
      some ⟨c :: word, false, ':' :: after⟩ := by
    rw [ht.rest]
    exact Plain.read_key hbegins hcolon hafter _
  have hline : ∀ d ∈ c :: word, isBreak d = false := fun d hd => (isInk_iff.mp (hcolon d hd).1).2
  have hgo : t.place.goTo (':' :: after) =
      ⟨':' :: after, t.place.index + (c :: word).length, t.place.line,
        t.place.column + (c :: word).length⟩ :=
    Cursor.goTo_line (by rw [ht.rest, List.cons_append]) hline
  have hdocument : Yaml.documentMark (c :: (word ++ ':' :: after)) = false := by
    have hminus : '-' ≠ c := (ne_of_isWordChar hc (by decide)).symm
    have hdot : '.' ≠ c := (ne_of_isWordChar hc (by decide)).symm
    simp [Yaml.documentMark, hminus, hdot]
  let read : Lexer :=
    { t with keys := [some t.keyHere], keyAllowed := false }.pushTo
      (.scalar (String.ofList (c :: word)) .plain) (':' :: after)
  have hplace : read.place = t.place.goTo (':' :: after) := rfl
  refine ⟨read, ?_, ?_, ?_⟩
  · rw [tokenAt_plain ht.keys (beginsPlain_of_isWordChar hc _) fun _ => hdocument, plain,
      ht.saveKey]
    change (Plain.read false t.indent t.place.rest).bind _ = _
    rw [hread]
    rfl
  · rw [hplace, hgo]
    simp
  · refine ⟨⟨t.place.index, t.place.line, ?_, t.keyHere.required, ?_⟩, rfl, ?_, ?_⟩
    · rw [hplace, hgo, ht.column]
    · rw [← ht.count, ← ht.column]
      rfl
    · rw [← ht.layout]
      rfl
    · rw [← ht.count]
      rfl

theorem closeTo_of_le {s : Lexer} {limit : Int} (h : s.indent ≤ limit) : s.closeTo limit = s := by
  obtain ⟨place, tokens, count, indent, outer, keys, keyAllowed, released⟩ := s
  rw [closeTo]
  split
  · rfl
  · cases outer with
    | nil => rfl
    | cons next outer =>
        rw [closeBlocks, if_neg (Int.not_lt.mpr h)]

/-- A word that has just been read is a possible key still where the next token begins. -/
theorem Keyed.settle {word after : List Char} (h : s.Keyed word (':' :: after) column l)
    (hword : word.length ≤ longestKey) (hindent : l.indent ≤ column) :
    ∃ t, s.settle = some t ∧ t.Keyed word (':' :: after) column l := by
  obtain ⟨⟨index, line, hplace, required, hkeys⟩, hallowed, hlayout, hcount⟩ := h
  have hrest : s.place.rest = spaces 0 ++ ':' :: after := by rw [hplace]; rfl
  have hskip := skipToToken_spaces s.inFlow s.keyAllowed s.place.rest.length hrest
    (fresh_cons rfl (by decide) (by decide))
  have hlive : ∀ c : Cursor, c.line = line → c.index = index + word.length →
      ∀ k, some k ∈ s.keys → isStale c k = false := by
    intro c hline hindex k hk
    rw [hkeys, List.mem_singleton, Option.some.injEq] at hk
    subst hk
    simp [isStale, hline, hindex]
    omega
  have hsettle := settle_of_live hskip (hlive _ (by rw [hplace]) (by rw [hplace]))
    (hlive _ (by rw [hplace]) (by rw [hplace]; rfl))
  have hl : s.indent = l.indent := congrArg Layout.indent hlayout
  rw [closeTo_of_le] at hsettle
  · refine ⟨_, hsettle, ⟨index, line, ?_, required, hkeys⟩, hallowed, hlayout, hcount⟩
    rw [hplace]
    rfl
  · show s.indent ≤ ((s.place.column + 0 : Nat) : Int)
    rw [hl, hplace]
    simp only
    omega

/-- The token of a key is put in before that of the word, and before it that of the block. -/
theorem Keyed.insertAt {t : Lexer} {word : List Char} (h : t.Keyed word rest column l) :
    ((t.insertAt l.tokens.length .key).openBlock column l.tokens.length
        .blockMappingStart).layout =
      (l.opened column .blockMappingStart).emit [.key, .scalar (String.ofList word) .plain] ∧
    ((t.insertAt l.tokens.length .key).openBlock column l.tokens.length
        .blockMappingStart).count =
      (l.opened column .blockMappingStart).tokens.length + 2 ∧
    ((t.insertAt l.tokens.length .key).openBlock column l.tokens.length
        .blockMappingStart).place = t.place ∧
    ((t.insertAt l.tokens.length .key).openBlock column l.tokens.length
        .blockMappingStart).keys = t.keys := by
  obtain ⟨⟨_, _, _, required, hkeys⟩, _, hlayout, hcount⟩ := h
  have htokens : t.tokens = .scalar (String.ofList word) .plain :: l.tokens :=
    congrArg Layout.tokens hlayout
  have hindent : t.indent = l.indent := congrArg Layout.indent hlayout
  have houter : t.outerIndents = l.outer := congrArg Layout.outer hlayout
  have hflow : t.inFlow = false := by rw [inFlow, hkeys]; rfl
  have hinsert : t.insertAt l.tokens.length .key =
      { t with
        tokens := .scalar (String.ofList word) .plain :: .key :: l.tokens
        count := l.tokens.length + 2 } := by
    simp [Lexer.insertAt, htokens, hcount]
  rw [hinsert, Lexer.openBlock, Layout.opened]
  simp only [inFlow] at hflow ⊢
  simp only [hflow, Bool.not_false, Bool.true_and, decide_eq_true_eq, hindent]
  split
  · simp [Lexer.insertAt, Lexer.layout, Layout.emit, houter]
  · simp [Lexer.layout, Layout.emit, houter]

/-- The colon after a word makes the word a key; the block is open from there on. -/
theorem Keyed.value {word after : List Char} (h : s.Keyed word (':' :: after) column l)
    (hne : word ≠ []) (hword : word.length ≤ longestKey) (hafter : blankNext after = true)
    (hindent : l.indent ≤ column) :
    ∃ u, s.Leads u ∧ u.Stands after (column + word.length + 1) false
      ((l.opened column .blockMappingStart).emit
        [.key, .scalar (String.ofList word) .plain, .value]) := by
  obtain ⟨t, hsettle, ht⟩ := h.settle hword hindent
  obtain ⟨hblock, hcount, hsame, hkept⟩ := ht.insertAt
  obtain ⟨⟨_, _, hbefore, _⟩, _⟩ := h
  obtain ⟨⟨index, line, hplace, required, hkeys⟩, _, _, _⟩ := ht
  have hlength := List.length_pos_of_ne_nil hne
  have hgo : t.place.goTo after =
      ⟨after, index + word.length + 1, line, column + word.length + 1⟩ := by
    have hread : t.place.rest = [':'] ++ after := by rw [hplace]; rfl
    rw [Cursor.goTo_line hread (by simp [isBreak]), hplace]
    rfl
  have hflow : t.inFlow = false := by rw [inFlow, hkeys]; rfl
  have hcolumn : t.place.column ≠ 0 := by
    rw [hplace]
    simp only
    omega
  let key := (t.insertAt l.tokens.length .key).openBlock column l.tokens.length .blockMappingStart
  let read : Lexer := { key with keys := [none], keyAllowed := false }.pushTo .value after
  have htoken : t.tokenAt ':' after = some read := by
    simp [tokenAt, hcolumn, hflow, hafter, Lexer.value, hkept, hkeys, read, key]
  have hrest : read.place = t.place.goTo after := by rw [← hsame]; rfl
  refine ⟨read, leads_of_token hsettle (by rw [hplace]) htoken ?_ ?_, ?_⟩
  · exact Nat.le_of_eq (by rw [hplace, hbefore])
  · rw [hrest, hgo, hplace]
    simp
  · refine ⟨by rw [hrest, hgo], by rw [hrest, hgo], rfl, rfl, ?_, ?_⟩
    · have hlayout : read.layout = key.layout.emit [.value] := rfl
      rw [hlayout, hblock, Layout.emit_emit]
      rfl
    · have hpush : read.count = key.count + 1 := rfl
      rw [hpush, hcount]
      rfl

/-- A key, and the colon after it. -/
theorem Settled.key {word after : List Char}
    (h : s.Settled (word ++ ':' :: after) column true l) (hne : word ≠ [])
    (hword : ∀ c ∈ word, isWordChar c = true) (hlength : word.length ≤ longestKey)
    (hafter : blankNext after = true) (hindent : l.indent ≤ column) :
    ∃ u, s.Leads u ∧ u.Stands after (column + word.length + 1) false
      ((l.opened column .blockMappingStart).emit
        [.key, .scalar (String.ofList word) .plain, .value]) := by
  obtain ⟨t, hread, ht⟩ : ∃ t, s.Leads t ∧ t.Keyed word (':' :: after) column l := by
    cases word with
    | nil => exact absurd rfl hne
    | cons c word => exact h.word hword hafter
  obtain ⟨u, hvalue, hu⟩ := ht.value hne hlength hafter hindent
  exact ⟨u, hread.trans hvalue, hu⟩

end

end Lexer

end BroadcastFilter.Yaml
