import BroadcastFilter.Proofs.Yaml.Tokens

/-!
All that is printed may stand in a text: what cannot be printed as it is, is printed by its name or
its number.
-/

namespace BroadcastFilter.Yaml

open Json

theorem printable_indentation (n : Nat) : Printable (Printer.indentation n).toList := by
  intro c hc
  rw [toList_indentation] at hc
  rw [eq_of_mem_spaces hc]
  rfl

theorem printable_toDigits (n : Nat) : Printable ((Nat.toDigits 16 n).map Char.toUpper) := by
  have hdigit : ∀ d < 16, isPrintable (Nat.digitChar d).toUpper = true := by decide
  induction n using Nat.strongRecOn with
  | _ n ih =>
      by_cases hsmall : n < 16
      · rw [Nat.toDigits_of_lt_base hsmall]
        simpa [Printable] using hdigit n hsmall
      · rw [Nat.toDigits_of_base_le (by decide) (by omega), List.map_append, printable_append]
        refine ⟨ih (n / 16) (by omega), ?_⟩
        simpa [Printable] using hdigit (n % 16) (Nat.mod_lt n (by decide))

theorem printable_upperHex (width n : Nat) : Printable (Printer.upperHex width n).toList := by
  rw [Printer.upperHex, String.toList_ofList, printable_append]
  refine ⟨fun c hc => ?_, printable_toDigits n⟩
  rw [List.eq_of_mem_replicate hc]
  rfl

theorem printable_doubleQuotedChar (c : Char) : Printable (Printer.doubleQuotedChar c).toList := by
  unfold Printer.doubleQuotedChar
  split
  case h_15 =>
    split
    case isTrue hprint => simpa [Printable] using hprint
    case isFalse =>
      simp only [Printer.numbered]
      repeat' split
      all_goals
        rw [String.toList_append, printable_append]
        exact ⟨by decide, printable_upperHex _ _⟩
  all_goals decide

theorem printable_singleQuoted (indent : Nat) (afterBreak : Bool) {cs : List Char}
    (h : Printable cs) : Printable (Printer.singleQuoted indent afterBreak cs).toList := by
  induction cs generalizing afterBreak with
  | nil =>
      rw [Printer.singleQuoted]
      split
      · exact printable_indentation indent
      · exact printable_nil
  | cons c cs ih =>
      obtain ⟨hc, hcs⟩ := printable_cons.mp h
      rw [Printer.singleQuoted]
      split
      · rw [String.toList_append, printable_append]
        exact ⟨by simpa [Printable] using hc, ih true hcs⟩
      · rw [String.toList_append, String.toList_append, printable_append, printable_append]
        refine ⟨⟨?_, ?_⟩, ih false hcs⟩
        · split
          · exact printable_indentation indent
          · exact printable_nil
        · split
          · decide
          · simpa [Printable] using hc

theorem printable_literalLines (indent : Nat) (lineStart : Bool) {cs : List Char}
    (h : Printable cs) : Printable (Printer.literalLines indent lineStart cs).toList := by
  induction cs generalizing lineStart with
  | nil => exact printable_nil
  | cons c cs ih =>
      obtain ⟨hc, hcs⟩ := printable_cons.mp h
      have hself : Printable (String.singleton c).toList := by simpa [Printable] using hc
      rw [Printer.literalLines]
      split
      · rw [String.toList_append, printable_append]
        exact ⟨hself, ih true hcs⟩
      · rw [String.toList_append, String.toList_append, printable_append, printable_append]
        refine ⟨⟨?_, hself⟩, ih false hcs⟩
        split
        · exact printable_indentation indent
        · exact printable_nil

theorem printable_literalHeader (cs : List Char) : Printable (Printer.literalHeader cs).toList := by
  rw [Printer.literalHeader, String.toList_append, String.toList_append, printable_append,
    printable_append, Block.chomping_toList]
  refine ⟨⟨by decide, ?_⟩, ?_⟩
  · split <;> decide
  · cases Block.chompingOf cs <;> decide

theorem printable_literal (indent : Nat) {cs : List Char} (h : Printable cs) :
    Printable (Printer.literal indent cs).toList := by
  rw [Block.literal_toList, printable_append, printable_cons]
  exact ⟨printable_literalHeader cs, rfl,
    printable_literalLines indent true (Block.printable_closed h)⟩

theorem printable_doubleQuoted (cs : List Char) :
    Printable (String.join (cs.map Printer.doubleQuotedChar)).toList := by
  rw [String.toList_join, List.flatMap_map]
  intro c hc
  obtain ⟨d, _, hd⟩ := List.mem_flatMap.mp hc
  exact printable_doubleQuotedChar d c hd

theorem printable_string (indent : Nat) (s : String) :
    Printable (Printer.string indent s).toList := by
  rcases Printer.string_cases s with ⟨_, hstring, _, hliteral⟩ | ⟨_, hstring, _, hplain⟩ |
    ⟨_, hstring, _, hsingle⟩ | ⟨_, hstring⟩
  case inl =>
    rw [hstring]
    refine printable_literal indent (printable_of_unprintable ?_)
    simp only [Shape.allowsLiteral, Bool.not_eq_true', Bool.or_eq_false_iff] at hliteral
    exact hliteral.1.1
  case inr.inl =>
    rw [hstring, String.toList_append, printable_append]
    refine ⟨printable_of_unprintable ?_, by decide⟩
    simp only [Shape.allowsPlain, Bool.not_eq_true', Bool.or_eq_false_iff] at hplain
    exact hplain.1.1.1.2
  case inr.inr.inl =>
    rw [hstring, String.toList_append, String.toList_append, printable_append, printable_append]
    refine ⟨⟨by decide, printable_singleQuoted indent false (printable_of_unprintable ?_)⟩,
      by decide⟩
    simp only [Shape.allowsSingle, Bool.not_eq_true', Bool.or_eq_false_iff] at hsingle
    exact hsingle.1.1
  case inr.inr.inr =>
    rw [hstring, String.toList_append, String.toList_append, printable_append, printable_append]
    exact ⟨⟨by decide, printable_doubleQuoted s.toList⟩, by decide⟩

theorem Printer.IsWord.printable {k : String} (h : Printer.IsWord k) : Printable k.toList :=
  fun c hc => isPrintable_of_isWordChar (h.chars c hc)

/-- What is printed for the value of an entry can stand in a text. -/
def EntryPrintable (v : Value) : Prop := ∀ column, Printable (renderEntry column v).toList

theorem printable_renderEntries {entries : List (String × Value)}
    (hwords : ∀ e ∈ entries, Printer.IsWord e.1) (hvalues : ∀ e ∈ entries, EntryPrintable e.2)
    (column : Nat) : Printable (renderEntries column entries).toList := by
  induction entries with
  | nil => exact printable_nil
  | cons entry entries ih =>
      obtain ⟨k, v⟩ := entry
      have hk := hwords (k, v) (by simp)
      simp only [renderEntries, String.toList_append, printable_append, hk.key]
      exact ⟨⟨⟨⟨printable_indentation column, hk.printable⟩, by decide⟩,
        hvalues (k, v) (by simp) column⟩, ih (fun e he => hwords e (by simp [he]))
          fun e he => hvalues e (by simp [he])⟩

theorem printable_record {record : List (String × Value)}
    (hwords : ∀ e ∈ record, Printer.IsWord e.1) (hvalues : ∀ e ∈ record, EntryPrintable e.2)
    (column : Nat) : Printable (renderAt column (.object record)).toList := by
  cases record with
  | nil =>
      rw [renderAt]
      decide
  | cons entry entries =>
      obtain ⟨k, v⟩ := entry
      have hk := hwords (k, v) (by simp)
      simp only [renderAt, String.toList_append, printable_append, hk.key]
      exact ⟨⟨⟨hk.printable, by decide⟩, hvalues (k, v) (by simp) column⟩,
        printable_renderEntries (fun e he => hwords e (by simp [he]))
          (fun e he => hvalues e (by simp [he])) column⟩

theorem printable_renderItems {records : List (List (String × Value))}
    (hwords : ∀ r ∈ records, ∀ e ∈ r, Printer.IsWord e.1)
    (hvalues : ∀ r ∈ records, ∀ e ∈ r, EntryPrintable e.2) (column : Nat) :
    Printable (renderItems column (records.map .object)).toList := by
  induction records with
  | nil => exact printable_nil
  | cons record records ih =>
      simp only [List.map_cons, renderItems, String.toList_append, printable_append]
      exact ⟨⟨⟨printable_indentation column, by decide⟩,
        printable_record (hwords record (by simp)) (hvalues record (by simp)) (column + 2)⟩,
        ih (fun r hr => hwords r (by simp [hr])) fun r hr => hvalues r (by simp [hr])⟩

theorem printable_of_laid {v : Value} (h : Printer.Laid v) : EntryPrintable v := by
  induction h with
  | bool b =>
      intro column
      cases b <;> simp only [renderEntry] <;> decide
  | whole n =>
      intro column
      simp only [renderEntry, String.toList_append, printable_append]
      exact ⟨⟨by decide, (plainly_whole n).printable⟩, by decide⟩
  | string s =>
      intro column
      rw [renderEntry, String.toList_append, printable_append]
      exact ⟨by decide, printable_string (column + 2) s⟩
  | @records records _ hwords _ hvalues =>
      intro column
      cases records with
      | nil =>
          simp only [List.map_nil, renderEntry]
          decide
      | cons record more =>
          simp only [List.map_cons, renderEntry, String.toList_append, printable_append]
          exact ⟨⟨⟨⟨by decide, printable_indentation column⟩, by decide⟩,
            printable_record (hwords record (by simp)) (hvalues record (by simp)) (column + 2)⟩,
            printable_renderItems (fun r hr => hwords r (by simp [hr]))
              (fun r hr => hvalues r (by simp [hr])) column⟩

/-- A record is read as its tokens. -/
theorem ofText_render {record : Value} (h : Printer.LaidRecord record) :
    Token.ofText (render record) = Printer.tokens record ++ [.streamEnd] := by
  have hprint : Printable (render record).toList := by
    obtain ⟨-, hwords, hvalues⟩ := h
    exact printable_record hwords (fun e he => printable_of_laid (hvalues e he)) 0
  have hmark : ((render record).toList.head? == some '\ufeff') = false := by
    rw [beq_eq_false_iff_ne]
    intro hhead
    exact absurd (hprint _ (List.mem_of_head? hhead)) (by decide)
  have hallowed : (render record).toList.all isAllowed = true :=
    List.all_eq_true.mpr fun c hc => isAllowed_of_isPrintable (hprint c hc)
  rw [Token.ofText]
  simp only [hmark, Bool.false_eq_true, if_false, hallowed, if_true]
  exact run_render h

end BroadcastFilter.Yaml
