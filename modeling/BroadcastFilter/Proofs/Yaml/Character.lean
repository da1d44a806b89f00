import BroadcastFilter.Yaml.Cursor
import BroadcastFilter.Yaml.Printer
import Mathlib.Data.List.Basic

/-!
What a character of printed text can be. All that is printed may stand in a text; the only blank
among it is the space, and the only line breaks are the line feed and the two separators, which
stand for themselves when they are read.
-/

namespace BroadcastFilter.Yaml

variable {c : Char}

theorem isBreak_iff : isBreak c = true ↔
    c = '\n' ∨ c = '\r' ∨ c = '\u0085' ∨ c = '\u2028' ∨ c = '\u2029' := by
  simp [isBreak, or_assoc]

theorem isBlank_iff : isBlank c = true ↔ c = ' ' ∨ c = '\t' := by
  simp [isBlank]

theorem isAllowed_of_isPrintable (h : isPrintable c = true) : isAllowed c = true := by
  simp only [isPrintable, isAllowed, Bool.or_eq_true, Bool.and_eq_true, beq_iff_eq,
    decide_eq_true_eq, bne_iff_ne] at h ⊢
  omega

theorem isBlank_of_isPrintable (h : isPrintable c = true) (hblank : isBlank c = true) :
    c = ' ' := by
  rcases isBlank_iff.mp hblank with rfl | rfl
  · rfl
  · revert h
    decide

/-- The breaks that can be printed as they are. -/
theorem isBreak_of_isPrintable (h : isPrintable c = true) (hbreak : isBreak c = true) :
    c = '\n' ∨ c = '\u2028' ∨ c = '\u2029' := by
  rcases isBreak_iff.mp hbreak with rfl | rfl | rfl | rfl | rfl
  · exact .inl rfl
  · revert h
    decide
  · revert h
    decide
  · exact .inr (.inl rfl)
  · exact .inr (.inr rfl)

/-- The character neither separates words nor ends a line. -/
def isInk (c : Char) : Bool := !(isBlank c || isBreak c)

/-- No blank and no break comes next. -/
def InkNext (rest : List Char) : Prop := ∀ c, rest.head? = some c → isInk c = true

theorem inkNext_cons {rest : List Char} (h : isInk c = true) : InkNext (c :: rest) := by
  rintro _ ⟨⟩
  exact h

theorem isInk_iff : isInk c = true ↔ isBlank c = false ∧ isBreak c = false := by
  simp [isInk]

theorem isInk_eq_false_iff : isInk c = false ↔ (isBlank c || isBreak c) = true := by
  rw [isInk, Bool.not_eq_eq_eq_not, Bool.not_false]

/-- Small letters, digits and the low line, in which names of fields and numbers are written. -/
def isWordChar (c : Char) : Bool := c.isLower || c.isDigit || c == '_'

theorem isWordChar_of_isDigit (h : c.isDigit = true) : isWordChar c = true := by
  simp [isWordChar, h]

theorem code_of_isWordChar (h : isWordChar c = true) : 48 ≤ c.toNat ∧ c.toNat ≤ 122 := by
  have hlower : c.isLower = (decide (c.val ≥ 'a'.val) && decide (c.val ≤ 'z'.val)) := rfl
  simp only [isWordChar, hlower, Char.isDigit, Bool.or_eq_true, Bool.and_eq_true,
    decide_eq_true_eq, beq_iff_eq] at h
  rcases h with (⟨hlow, hhigh⟩ | ⟨hlow, hhigh⟩) | rfl
  · exact ⟨Nat.le_trans (by decide) hlow, hhigh⟩
  · exact ⟨hlow, Nat.le_trans hhigh (by decide)⟩
  · decide

theorem ne_of_isWordChar {d : Char} (hc : isWordChar c = true) (hd : isWordChar d = false) :
    c ≠ d := by
  rintro rfl
  rw [hc] at hd
  cases hd

theorem ne_of_mem_of_isWordChar {ds : List Char} (hc : isWordChar c = true)
    (hds : ds.any isWordChar = false) : ∀ d ∈ ds, c ≠ d := fun d hd =>
  ne_of_isWordChar hc (by simpa using List.any_eq_false.mp hds d hd)

theorem isInk_of_isWordChar (hc : isWordChar c = true) : isInk c = true := by
  have hne : ∀ d ∈ [' ', '\t', '\n', '\r', '\u0085', '\u2028', '\u2029'], c ≠ d :=
    ne_of_mem_of_isWordChar hc (by decide)
  simp only [List.forall_mem_cons] at hne
  simp [isInk, isBlank, isBreak, hne]

/-- All characters are printed as they are. -/
def Printable (cs : List Char) : Prop := ∀ c ∈ cs, isPrintable c = true

instance (cs : List Char) : Decidable (Printable cs) :=
  decidable_of_iff (cs.all isPrintable = true) List.all_eq_true

theorem printable_append {xs ys : List Char} :
    Printable (xs ++ ys) ↔ Printable xs ∧ Printable ys :=
  List.forall_mem_append

theorem printable_cons {c : Char} {cs : List Char} :
    Printable (c :: cs) ↔ isPrintable c = true ∧ Printable cs :=
  List.forall_mem_cons

theorem printable_nil : Printable [] := nofun

theorem printable_of_unprintable {cs : List Char} (h : (Shape.of cs).unprintable = false) :
    Printable cs := by
  intro c hc
  simpa using List.any_eq_false.mp h c hc

theorem isPrintable_of_isWordChar (hc : isWordChar c = true) : isPrintable c = true := by
  have hcode := code_of_isWordChar hc
  simp only [isPrintable, Bool.or_eq_true, Bool.and_eq_true, beq_iff_eq, decide_eq_true_eq]
  omega

theorem takeWhile_run {p : Char → Bool} {run rest : List Char} (hrun : ∀ c ∈ run, p c = true)
    (hrest : ∀ c, rest.head? = some c → p c = false) : (run ++ rest).takeWhile p = run := by
  rw [List.takeWhile_append_of_pos hrun]
  cases rest with
  | nil => simp
  | cons c rest => rw [List.takeWhile_cons_of_neg (by simp [hrest c rfl]), List.append_nil]

theorem dropWhile_run {p : Char → Bool} {run rest : List Char} (hrun : ∀ c ∈ run, p c = true)
    (hrest : ∀ c, rest.head? = some c → p c = false) : (run ++ rest).dropWhile p = rest := by
  rw [List.dropWhile_append_of_pos hrun]
  cases rest with
  | nil => rfl
  | cons c rest => rw [List.dropWhile_cons_of_neg (by simp [hrest c rfl])]

/-- A text begins with the longest run of a class of characters that it begins with. -/
theorem exists_run (p : Char → Bool) (cs : List Char) :
    ∃ run rest, cs = run ++ rest ∧ (∀ c ∈ run, p c = true) ∧
      ∀ c, rest.head? = some c → p c = false := by
  induction cs with
  | nil => exact ⟨[], [], rfl, nofun, nofun⟩
  | cons c cs ih =>
      cases hc : p c with
      | true =>
          obtain ⟨run, rest, rfl, hrun, hrest⟩ := ih
          exact ⟨c :: run, rest, rfl, List.forall_mem_cons.mpr ⟨hc, hrun⟩, hrest⟩
      | false =>
          refine ⟨[], c :: cs, rfl, nofun, ?_⟩
          rintro _ ⟨⟩
          exact hc

/-- Induction over a text by the longest runs of a class of characters and by the single characters
between them. -/
theorem run_induction (p : Char → Bool) {P : List Char → Prop} (nil : P [])
    (char : ∀ c cs, p c = false → P cs → P (c :: cs))
    (run : ∀ run cs, run ≠ [] → (∀ c ∈ run, p c = true) →
      (∀ c, cs.head? = some c → p c = false) → P cs → P (run ++ cs)) (cs : List Char) : P cs := by
  induction hlength : cs.length using Nat.strongRecOn generalizing cs with
  | _ n ih =>
      subst hlength
      obtain ⟨first, rest, rfl, hfirst, hrest⟩ := exists_run p cs
      cases first with
      | cons c first =>
          exact run (c :: first) rest (by simp) hfirst hrest
            (ih rest.length (by rw [List.length_append, List.length_cons]; omega) rest rfl)
      | nil =>
          cases rest with
          | nil => exact nil
          | cons c rest => exact char c rest (hrest c rfl) (ih rest.length (by simp) rest rfl)

/-- So many spaces. -/
def spaces (n : Nat) : List Char := List.replicate n ' '

theorem eq_of_mem_spaces {n : Nat} (h : c ∈ spaces n) : c = ' ' := List.eq_of_mem_replicate h

@[simp] theorem length_spaces (n : Nat) : (spaces n).length = n := List.length_replicate

@[simp] theorem spaces_zero : spaces 0 = [] := rfl

@[simp] theorem spaces_succ (n : Nat) : spaces (n + 1) = ' ' :: spaces n := rfl

theorem spaces_succ' (n : Nat) : spaces (n + 1) = spaces n ++ [' '] := List.replicate_succ'

theorem toList_indentation (n : Nat) : (Printer.indentation n).toList = spaces n :=
  String.toList_ofList

theorem exists_eq_spaces {run : List Char} (hne : run ≠ []) (hrun : ∀ c ∈ run, c = ' ') :
    ∃ n, run = spaces (n + 1) := by
  refine ⟨run.length - 1, ?_⟩
  have hlength := List.length_pos_iff.mpr hne
  rw [Nat.sub_add_cancel hlength]
  exact List.eq_replicate_of_mem hrun

theorem blank_run {run rest : List Char} (hrun : ∀ c ∈ run, isInk c = false)
    (hrest : InkNext rest) :
    (run ++ rest).takeWhile (fun c => isBlank c || isBreak c) = run := by
  refine takeWhile_run (fun c hc => isInk_eq_false_iff.mp (hrun c hc)) fun c hc => ?_
  rw [Bool.or_eq_false_iff, ← isInk_iff]
  exact hrest c hc

theorem breakTexts_spaces (n : Nat) : breakTexts (spaces n) = [] := by
  induction n with
  | zero => rfl
  | succ n ih =>
      rw [spaces_succ, breakTexts.eq_def]
      simp [isBreak, ih]

theorem columnAfter_break (n : Nat) {b : Char} (hb : isBreak b = true) (before : List Char) :
    columnAfter (before ++ b :: spaces n) = n := by
  have hspaces : (spaces n).reverse = spaces n := List.reverse_replicate
  rw [columnAfter, List.reverse_append, List.reverse_cons, hspaces, List.append_assoc,
    takeWhile_run, length_spaces]
  · intro c hc
    rw [eq_of_mem_spaces hc]
    rfl
  · rintro _ ⟨⟩
    rw [hb]
    rfl

/-- A text begins with the spaces that it begins with. -/
theorem exists_spaces (cs : List Char) :
    ∃ n rest, cs = spaces n ++ rest ∧ rest.head? ≠ some ' ' := by
  obtain ⟨run, rest, rfl, hrun, hrest⟩ := exists_run (· == ' ') cs
  have hspaces : run = spaces run.length :=
    List.eq_replicate_of_mem fun c hc => eq_of_beq (hrun c hc)
  refine ⟨run.length, rest, by rw [← hspaces], fun hspace => ?_⟩
  exact absurd (hrest ' ' hspace) (by decide)

end BroadcastFilter.Yaml
