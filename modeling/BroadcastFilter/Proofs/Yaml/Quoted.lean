import BroadcastFilter.Proofs.Yaml.Character
import BroadcastFilter.Yaml.Printer
import BroadcastFilter.Yaml.Token.Quoted
import Mathlib.Algebra.Group.Nat.Defs
import Mathlib.Data.List.Basic

/-!
Scalars in quotes are read as what they were written for. Each character of a word is written in a
way that is read as that character, and each run of blanks and breaks between two words stands for
itself: it is either of spaces, or of separators that do not fold, with the indentation after them.
-/

namespace BroadcastFilter.Yaml.Quoted

variable {single : Bool}

/-- The quote around a scalar. -/
def quote (single : Bool) : Char := if single then '\'' else '"'

theorem isInk_quote : isInk (quote single) = true := by
  cases single <;> rfl

/-- One character of a word is written so. -/
structure Spells (single : Bool) (written : List Char) (c : Char) : Prop where
  ne_nil : written ≠ []
  ink : ∀ rest, InkNext (written ++ rest)
  read : ∀ word fuel rest,
    readWord single word (fuel + 1) (written ++ rest) = readWord single (c :: word) fuel rest

/-- A text is written so within quotes. -/
inductive Written (single : Bool) : List Char → List Char → Prop
  | nil : Written single [] []
  | char {written w : List Char} {c : Char} {cs : List Char} :
    Spells single written c → Written single w cs → Written single (written ++ w) (c :: cs)
  | gap {run w cs : List Char} : run ≠ [] → (∀ c ∈ run, isInk c = false) →
    run.getLast?.any isBreak = false → (∀ rest, InkNext (w ++ quote single :: rest)) →
    Written single w cs → Written single (run ++ w) (between false run ++ cs)

/-- What follows a word, by how the word ended. -/
def goOn (single : Bool) (fuel : Nat) :
    List Char × Stop × List Char → Option (List Char × List Char)
  | (text, .quote, rest) => some (text.reverse, rest)
  | (text, stop, rest) =>
    let run := rest.takeWhile fun c => isBlank c || isBreak c
    let escapedBreak := match stop with
      | .escapedBreak => true
      | _ => false
    readFrom single ((between escapedBreak run).reverse ++ text) fuel
      (run.getLast?.any isBreak) (rest.drop run.length)

theorem goOn_blank (fuel : Nat) (text rest : List Char) :
    goOn single fuel (text, .blank, rest) =
      readFrom single
        ((between false (rest.takeWhile fun c => isBlank c || isBreak c)).reverse ++ text) fuel
        ((rest.takeWhile fun c => isBlank c || isBreak c).getLast?.any isBreak)
        (rest.drop (rest.takeWhile fun c => isBlank c || isBreak c).length) := rfl

theorem readFrom_succ {text cs : List Char} (hcs : cs ≠ []) (fuel : Nat) :
    readFrom single text (fuel + 1) false cs =
      (readWord single text (cs.length + 1) cs).bind (goOn single fuel) := by
  have hempty : cs.isEmpty = false := by simpa using hcs
  rw [readFrom]
  simp only [hempty, Bool.false_and, Bool.or_self, Bool.false_eq_true, if_false]
  congr 1
  funext ⟨text, stop, rest⟩
  cases stop <;> rfl

theorem readWord_quote {rest : List Char} (hrest : single = true → rest.head? ≠ some '\'')
    (word : List Char) (fuel : Nat) :
    readWord single word (fuel + 1) (quote single :: rest) = some (word, .quote, rest) := by
  cases single with
  | false => rfl
  | true =>
      rw [readWord.eq_def]
      cases rest with
      | nil => rfl
      | cons c rest =>
          have hc : c ≠ '\'' := by simpa using hrest rfl
          simp [quote, isBlank, isBreak, hc]

theorem readWord_run {run : List Char} (hne : run ≠ []) (hrun : ∀ c ∈ run, isInk c = false)
    (word : List Char) (fuel : Nat) (rest : List Char) :
    readWord single word (fuel + 1) (run ++ rest) = some (word, .blank, run ++ rest) := by
  cases run with
  | nil => exact absurd rfl hne
  | cons c run =>
      have hc := isInk_eq_false_iff.mp (hrun c (by simp))
      rw [List.cons_append, readWord.eq_def]
      simp only [hc, if_true]

/-- The reader gets through what is written, from within a word on, to the quote at its end. -/
theorem goOn_written {w cs rest : List Char} (h : Written single w cs)
    (hrest : single = true → rest.head? ≠ some '\'') {word : List Char} {wordFuel fuel : Nat}
    (hword : w.length < wordFuel) (hfuel : w.length ≤ fuel) :
    (readWord single word wordFuel (w ++ quote single :: rest)).bind (goOn single fuel) =
      some (word.reverse ++ cs, rest) := by
  induction h generalizing word wordFuel fuel with
  | nil =>
      obtain ⟨wordFuel, rfl⟩ := Nat.exists_eq_add_one_of_ne_zero (Nat.ne_of_gt hword)
      rw [List.nil_append, readWord_quote hrest, List.append_nil]
      rfl
  | @char written w c cs hspells _ ih =>
      obtain ⟨wordFuel, rfl⟩ := Nat.exists_eq_add_one_of_ne_zero (Nat.ne_zero_of_lt hword)
      have hlength : 0 < written.length := List.length_pos_of_ne_nil hspells.ne_nil
      rw [List.length_append] at hword hfuel
      rw [List.append_assoc, hspells.read, ih (by omega) (by omega), List.reverse_cons,
        List.append_assoc, List.singleton_append]
  | @gap run w cs hne hrun hlast hnext _ ih =>
      obtain ⟨wordFuel, rfl⟩ := Nat.exists_eq_add_one_of_ne_zero (Nat.ne_zero_of_lt hword)
      have hlength : 0 < run.length := List.length_pos_of_ne_nil hne
      rw [List.length_append] at hword hfuel
      obtain ⟨fuel, rfl⟩ := Nat.exists_eq_add_one_of_ne_zero (n := fuel) (by omega)
      rw [List.append_assoc, readWord_run hne hrun, Option.bind_some, goOn_blank,
        blank_run hrun (hnext rest), List.drop_left, hlast, readFrom_succ (by simp),
        ih (by rw [List.length_append]; omega) (by omega), List.reverse_append,
        List.reverse_reverse, List.append_assoc]

/-- What is written within quotes is read back. -/
theorem read_written {w cs rest : List Char} (h : Written single w cs)
    (hrest : single = true → rest.head? ≠ some '\'') :
    read single (w ++ quote single :: rest) = some (String.ofList cs, rest) := by
  have hlength : w.length ≤ (w ++ quote single :: rest).length := by simp
  rw [read, readFrom_succ (by simp), goOn_written h hrest (by omega) (by omega)]
  rfl

theorem hexDigit?_toUpper_digitChar {d : Nat} (hd : d < 16) :
    Json.Document.hexDigit? (Nat.digitChar d).toUpper = some d := by
  revert d
  decide

theorem ofHex?_append_singleton (cs : List Char) (c : Char) :
    ofHex? (cs ++ [c]) =
      (ofHex? cs).bind fun n => (Json.Document.hexDigit? c).map (16 * n + ·) := by
  rw [ofHex?, List.foldl_append]
  rfl

theorem ofHex?_zeros (n : Nat) : ofHex? (List.replicate n '0') = some 0 := by
  induction n with
  | zero => rfl
  | succ n ih =>
      rw [List.replicate_succ', ofHex?_append_singleton, ih]
      rfl

theorem ofHex?_toDigits (zeros n : Nat) :
    ofHex? (List.replicate zeros '0' ++ (Nat.toDigits 16 n).map Char.toUpper) = some n := by
  induction n using Nat.strongRecOn with
  | _ n ih =>
      have hdigit := hexDigit?_toUpper_digitChar (Nat.mod_lt n (by decide : 0 < 16))
      by_cases hsmall : n < 16
      · rw [Nat.mod_eq_of_lt hsmall] at hdigit
        rw [Nat.toDigits_of_lt_base hsmall, List.map_singleton, ofHex?_append_singleton,
          ofHex?_zeros, Option.bind_some, hdigit, Option.map_some, Nat.mul_zero, Nat.zero_add]
      · rw [Nat.toDigits_of_base_le (by decide) (by omega), List.map_append, ← List.append_assoc,
          List.map_singleton, ofHex?_append_singleton, ih (n / 16) (by omega), Option.bind_some,
          hdigit, Option.map_some, Nat.div_add_mod]

theorem numbered?_upperHex {c : Char} (width : Nat) (hwidth : 0 < width)
    (hc : c.toNat < 16 ^ width) (rest : List Char) :
    numbered? width ((Printer.upperHex width c.toNat).toList ++ rest) = some (c, rest) := by
  have hdigits : (Nat.toDigits 16 c.toNat).length ≤ width :=
    (Nat.length_toDigits_le_iff (by decide) hwidth).mpr hc
  have hlength : (Printer.upperHex width c.toNat).toList.length = width := by
    simp only [Printer.upperHex, String.toList_ofList, List.length_append, List.length_replicate,
      List.length_map]
    omega
  have hvalid : c.toNat.isValidChar := c.valid
  rw [numbered?, List.take_left' hlength, List.drop_left' hlength, if_neg (by omega),
    Printer.upperHex, String.toList_ofList, ofHex?_toDigits, Option.bind_some, if_pos hvalid,
    Char.ofNat_toNat]

theorem spells_self {c : Char} (hink : isInk c = true)
    (hc : if single then c ≠ '\'' else c ≠ '"' ∧ c ≠ '\\') : Spells single [c] c where
  ne_nil := by simp
  ink rest := inkNext_cons hink
  read word fuel rest := by
    obtain ⟨hblank, hbreak⟩ := isInk_iff.mp hink
    rw [List.singleton_append, readWord.eq_def]
    cases single with
    | false => simp [hblank, hbreak, hc.1, hc.2]
    | true =>
        have hquote : c ≠ '\'' := hc
        simp [hblank, hbreak, hquote]

theorem spells_quote : Spells true ['\'', '\''] '\'' where
  ne_nil := by simp
  ink rest := inkNext_cons rfl
  read word fuel rest := rfl

theorem spells_escape {written : List Char} {c : Char}
    (hread : ∀ rest, escaped? (written ++ rest) = some (c, rest))
    (hbreak : written.head?.any isBreak = false) : Spells false ('\\' :: written) c where
  ne_nil := by simp
  ink rest := inkNext_cons rfl
  read word fuel rest := by
    have hnext : (written ++ rest).head?.any isBreak = false := by
      cases written with
      | nil => exact absurd (hread []) (by simp [escaped?])
      | cons d written => simpa using hbreak
    rw [List.cons_append, readWord.eq_def]
    simp only [hnext, hread]
    simp [isBlank, isBreak]

theorem spells_digits {c mark : Char} {width : Nat} (hwidth : 0 < width)
    (hmark : ∀ rest, escaped? (mark :: rest) = numbered? width rest) (hbreak : isBreak mark = false)
    (hc : c.toNat < 16 ^ width) :
    Spells false ('\\' :: mark :: (Printer.upperHex width c.toNat).toList) c := by
  refine spells_escape (fun rest => ?_) (by simpa using hbreak)
  rw [List.cons_append, hmark, numbered?_upperHex width hwidth hc]

theorem spells_numbered (c : Char) : Spells false (Printer.numbered c).toList c := by
  have hvalid : c.toNat < 16 ^ 8 := by
    have hlarge : c.val.toNat.isValidChar := c.valid
    rw [Char.toNat]
    rcases hlarge with h | h <;> omega
  simp only [Printer.numbered]
  split
  case isTrue hsmall =>
    have hc : c.toNat < 16 ^ 2 := by omega
    simpa using spells_digits (by decide) (fun _ => rfl) rfl hc
  case isFalse =>
    split
    case isTrue hsmall =>
      have hc : c.toNat < 16 ^ 4 := by omega
      simpa using spells_digits (by decide) (fun _ => rfl) rfl hc
    case isFalse => simpa using spells_digits (by decide) (fun _ => rfl) rfl hvalid

/-- Each character but the space is written in double quotes as it is read. -/
theorem spells_doubleQuotedChar {c : Char} (hspace : c ≠ ' ') :
    Spells false (Printer.doubleQuotedChar c).toList c := by
  unfold Printer.doubleQuotedChar
  split
  case h_15 =>
    split
    case isTrue hprint =>
      rw [String.toList_singleton]
      refine spells_self ?_ ⟨by assumption, by assumption⟩
      rw [isInk_iff]
      simp_all [isBlank, isBreak]
    case isFalse => exact spells_numbered c
  all_goals exact spells_escape (fun rest => rfl) rfl

theorem between_spaces (n : Nat) : between false (spaces n) = spaces n := by
  rw [between, breakTexts_spaces]
  rfl

theorem last_spaces (n : Nat) : (spaces (n + 1)).getLast?.any isBreak = false := by
  rw [spaces_succ', List.getLast?_concat]
  rfl

theorem flatMap_spaces (n : Nat) :
    (spaces n).flatMap (fun c => (Printer.doubleQuotedChar c).toList) = spaces n := by
  induction n with
  | zero => rfl
  | succ n ih =>
      rw [spaces_succ, List.flatMap_cons, ih]
      rfl

/-- In double quotes any text can be written. -/
theorem written_double (cs : List Char) :
    Written false (String.join (cs.map Printer.doubleQuotedChar)).toList cs := by
  rw [String.toList_join, List.flatMap_map]
  induction cs using run_induction (· == ' ') with
  | nil => exact .nil
  | char c cs hc ih =>
      exact .char (spells_doubleQuotedChar (by simpa using hc)) ih
  | run run cs hne hrun hcs ih =>
      obtain ⟨n, rfl⟩ := exists_eq_spaces hne fun c hc => by simpa using hrun c hc
      rw [List.flatMap_append, flatMap_spaces]
      nth_rewrite 2 [← between_spaces (n + 1)]
      refine .gap (by simp) (fun c hc => ?_) (last_spaces n) (fun rest => ?_) ih
      · rw [eq_of_mem_spaces hc]
        rfl
      · cases cs with
        | nil => exact inkNext_cons isInk_quote
        | cons c cs =>
            have hc : c ≠ ' ' := by simpa using hcs c rfl
            rw [List.flatMap_cons, List.append_assoc]
            exact (spells_doubleQuotedChar hc).ink _

theorem anyPair_of_append {first second : Char → Bool} {xs ys : List Char}
    (h : Shape.anyPair first second (xs ++ ys) = false) :
    Shape.anyPair first second ys = false := by
  induction xs with
  | nil => exact h
  | cons x xs ih =>
      refine ih ?_
      cases hxs : xs ++ ys with
      | nil => rfl
      | cons y more =>
          rw [List.cons_append, hxs, Shape.anyPair, Bool.or_eq_false_iff] at h
          exact h.2

theorem anyPair_cons_cons {first second : Char → Bool} {cs : List Char} {a b : Char}
    (h : Shape.anyPair first second (a :: b :: cs) = false) :
    ¬ (first a = true ∧ second b = true) := by
  rw [Shape.anyPair, Bool.or_eq_false_iff, Bool.and_eq_false_iff] at h
  rintro ⟨ha, hb⟩
  simp [ha, hb] at h

/-- What has to hold of a text in single quotes. -/
structure Singly (cs : List Char) : Prop where
  chars : ∀ c ∈ cs, isPrintable c = true ∧ c ≠ '\n'
  breakSpace : Shape.anyPair isBreak Shape.isSpace cs = false
  spaceBreak : Shape.anyPair Shape.isSpace isBreak cs = false

theorem Singly.of_append {xs ys : List Char} (h : Singly (xs ++ ys)) : Singly ys where
  chars c hc := h.chars c (List.mem_append_right _ hc)
  breakSpace := anyPair_of_append h.breakSpace
  spaceBreak := anyPair_of_append h.spaceBreak

theorem Singly.kind {cs : List Char} (h : Singly cs) {c : Char} (hc : c ∈ cs)
    (hink : isInk c = false) : c = ' ' ∨ isBreak c = true := by
  cases hbreak : isBreak c with
  | true => exact .inr rfl
  | false =>
      refine .inl (isBlank_of_isPrintable (h.chars c hc).1 ?_)
      rwa [isInk_eq_false_iff, hbreak, Bool.or_false] at hink

theorem Singly.tail {c : Char} {cs : List Char} (h : Singly (c :: cs)) : Singly cs :=
  Singly.of_append (List.singleton_append ▸ h : Singly ([c] ++ cs))

/-- A run between words is of spaces or of breaks. -/
theorem Singly.uniform {run cs : List Char} (h : Singly (run ++ cs))
    (hrun : ∀ c ∈ run, isInk c = false) :
    (∀ c ∈ run, c = ' ') ∨ ∀ c ∈ run, isBreak c = true := by
  induction run with
  | nil => exact .inl nofun
  | cons a run ih =>
      have ha := h.kind (c := a) (by simp) (hrun a (by simp))
      have htail := ih h.tail fun c hc => hrun c (by simp [hc])
      cases run with
      | nil => simpa using ha
      | cons b run =>
          simp only [List.cons_append] at h
          rcases ha with rfl | ha
          · refine .inl (List.forall_mem_cons.mpr ⟨rfl, htail.resolve_right fun hbreaks => ?_⟩)
            exact anyPair_cons_cons h.spaceBreak ⟨rfl, hbreaks b (by simp)⟩
          · refine .inr (List.forall_mem_cons.mpr ⟨ha, htail.resolve_left fun hspaces => ?_⟩)
            exact anyPair_cons_cons h.breakSpace
              ⟨ha, by simp [Shape.isSpace, hspaces b (by simp)]⟩

theorem singleQuoted_spaces (indent n : Nat) (cs : List Char) :
    (Printer.singleQuoted indent false (spaces n ++ cs)).toList =
      spaces n ++ (Printer.singleQuoted indent false cs).toList := by
  induction n with
  | zero => rfl
  | succ n ih =>
      rw [spaces_succ, List.cons_append, Printer.singleQuoted]
      simp [isBreak, ih]

theorem singleQuoted_breaks (indent : Nat) {run cs : List Char}
    (hrun : ∀ c ∈ run, isBreak c = true) (hcs : ∀ c, cs.head? = some c → isBreak c = false)
    (afterBreak : Bool) (hne : run = [] → afterBreak = true) :
    (Printer.singleQuoted indent afterBreak (run ++ cs)).toList =
      run ++ (spaces indent ++ (Printer.singleQuoted indent false cs).toList) := by
  induction run generalizing afterBreak with
  | nil =>
      obtain rfl := hne rfl
      cases cs with
      | nil => simp [Printer.singleQuoted, toList_indentation]
      | cons c cs => simp [Printer.singleQuoted, toList_indentation, hcs c rfl]
  | cons b run ih =>
      have hb : isBreak b = true := hrun b (by simp)
      rw [List.cons_append, Printer.singleQuoted, if_pos hb, String.toList_append,
        String.toList_singleton, ih (fun c hc => hrun c (by simp [hc])) true fun _ => rfl]
      rfl

/-- Separators stand for themselves when they are read. -/
theorem between_breaks {run : List Char} (hne : run ≠ [])
    (hrun : ∀ c ∈ run, c = '\u2028' ∨ c = '\u2029') (n : Nat) :
    between false (run ++ spaces n) = run := by
  have htexts : breakTexts (run ++ spaces n) = run := by
    clear hne
    induction run with
    | nil => exact breakTexts_spaces n
    | cons b run ih =>
        rw [List.cons_append, breakTexts.eq_def]
        rcases hrun b (by simp) with rfl | rfl <;>
          simp [ih fun c hc => hrun c (by simp [hc])]
  rw [between, htexts]
  cases run with
  | nil => exact absurd rfl hne
  | cons b run => rcases hrun b (by simp) with rfl | rfl <;> rfl

theorem inkNext_singleQuoted (indent : Nat) {cs : List Char}
    (hcs : ∀ c, cs.head? = some c → isInk c = true) (rest : List Char) :
    InkNext ((Printer.singleQuoted indent false cs).toList ++ quote true :: rest) := by
  cases cs with
  | nil => exact inkNext_cons rfl
  | cons c cs =>
      have hink : isInk c = true := hcs c rfl
      rw [Printer.singleQuoted, if_neg (by simp [(isInk_iff.mp hink).2])]
      by_cases hquote : c = '\''
      · simpa [hquote] using inkNext_cons rfl
      · simpa [hquote] using inkNext_cons hink

/-- In single quotes a text can be written that has no line feed and no space beside a break. -/
theorem written_single {indent : Nat} (hindent : 0 < indent) {cs : List Char} (h : Singly cs) :
    Written true (Printer.singleQuoted indent false cs).toList cs := by
  induction cs using run_induction (fun c => !isInk c) with
  | nil => exact .nil
  | char c cs hc ih =>
      have hink : isInk c = true := by simpa using hc
      have hbreak := (isInk_iff.mp hink).2
      have htail := ih h.tail
      rw [Printer.singleQuoted]
      by_cases hquote : c = '\''
      · subst hquote
        simpa [isBreak] using Written.char spells_quote htail
      · have hspells : Spells true [c] c := spells_self hink hquote
        simpa [hbreak, hquote] using Written.char hspells htail
  | run run cs hne hrun hcs ih =>
      have hrun : ∀ c ∈ run, isInk c = false := fun c hc => by simpa using hrun c hc
      have hcs : ∀ c, cs.head? = some c → isInk c = true := fun c hc => by simpa using hcs c hc
      have htail := ih h.of_append
      rcases h.uniform hrun with hspaces | hbreaks
      · obtain ⟨n, rfl⟩ := exists_eq_spaces hne hspaces
        rw [singleQuoted_spaces]
        nth_rewrite 2 [← between_spaces (n + 1)]
        exact .gap hne hrun (last_spaces n) (inkNext_singleQuoted indent hcs) htail
      · obtain ⟨n, rfl⟩ := Nat.exists_eq_add_one_of_ne_zero (Nat.ne_zero_of_lt hindent)
        have hseparators : ∀ c ∈ run, c = '\u2028' ∨ c = '\u2029' := fun c hc =>
          (isBreak_of_isPrintable (h.chars c (by simp [hc])).1 (hbreaks c hc)).resolve_left
            (h.chars c (by simp [hc])).2
        have hheads : ∀ c, cs.head? = some c → isBreak c = false := fun c hc =>
          (isInk_iff.mp (hcs c hc)).2
        rw [singleQuoted_breaks _ hbreaks hheads false fun hnil => absurd hnil hne,
          ← List.append_assoc]
        nth_rewrite 2 [← between_breaks hne hseparators (n + 1)]
        refine .gap (by simp) (fun c hc => ?_) ?_ (inkNext_singleQuoted _ hcs) htail
        · rcases List.mem_append.mp hc with hc | hc
          · exact hrun c hc
          · rw [eq_of_mem_spaces hc]
            rfl
        · rw [List.getLast?_append_of_ne_nil _ (by simp), last_spaces]

end BroadcastFilter.Yaml.Quoted
