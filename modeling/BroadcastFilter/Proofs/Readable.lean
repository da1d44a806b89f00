import Mathlib.Data.List.Basic

/-!
Texts that can be read back. A way to write values can be read back if a value and its end can be
told from the front of a text, whatever comes after it of what may come there. Free text has this
property up to a mark that it does not contain, and numbers up to what is no digit. One of two texts
has it if neither begins with the other. Values written one after another have it, with or without a
separator, if what comes after the last of them does not look like one more.
-/

namespace BroadcastFilter

theorem toDigits_inj {n m : Nat} : Nat.toDigits 10 n = Nat.toDigits 10 m ↔ n = m := by
  refine ⟨fun h => ?_, congrArg _⟩
  have hvalue := congrArg (Nat.ofDigitChars 10 · 0) h
  simpa only [Nat.ofDigitChars_ten_toDigits] using hvalue

theorem not_mem_toDigits {mark : Char} (hmark : mark.isDigit = false) (n : Nat) :
    mark ∉ Nat.toDigits 10 n := by
  intro hmem
  have hdigit := Nat.isDigit_of_mem_toDigits (by decide) (by decide) hmem
  rw [hmark] at hdigit
  cases hdigit

theorem natural_text_inj {n m : Nat} : n.repr = m.repr ↔ n = m := by
  rw [← String.toList_inj, Nat.toList_repr, Nat.toList_repr, toDigits_inj]

theorem minus_append_ne (n m : Nat) : "-" ++ n.repr ≠ m.repr := by
  intro h
  have hmem : '-' ∈ m.repr.toList := by
    rw [← h, String.toList_append]
    exact List.mem_append_left _ (by decide)
  rw [Nat.toList_repr] at hmem
  exact not_mem_toDigits (by decide) m hmem

/-- Whole numbers have different texts: the minus tells the sign and the digits the rest. -/
theorem integer_text_inj {n m : Int} : n.repr = m.repr ↔ n = m := by
  cases n with
  | ofNat n =>
      cases m with
      | ofNat m => exact natural_text_inj.trans Int.ofNat_inj.symm
      | negSucc m => exact iff_of_false (minus_append_ne (m + 1) n).symm nofun
  | negSucc n =>
      cases m with
      | ofNat m => exact iff_of_false (minus_append_ne (n + 1) m) nofun
      | negSucc m =>
          have hdigits : (Int.negSucc n).repr = (Int.negSucc m).repr ↔
              (n + 1).repr = (m + 1).repr := String.append_right_inj "-"
          rw [hdigits, natural_text_inj, Nat.add_right_cancel_iff, Int.negSucc_inj]

/-- Two texts that each begin with a valid value and go on with what may follow are equal only if
both the values and the rests are. -/
def Readable {A : Type} (write : A → List Char) (Valid : A → Prop) (Follows : List Char → Prop) :
    Prop :=
  ∀ ⦃a b : A⦄ ⦃r s : List Char⦄, Valid a → Valid b → Follows r → Follows s →
    write a ++ r = write b ++ s → a = b ∧ r = s

/-- The text has ended or goes on with the mark. -/
def StopsAt (mark : Char) (r : List Char) : Prop := ∀ c, r.head? = some c → c = mark

theorem stopsAt_nil (mark : Char) : StopsAt mark [] := nofun

theorem stopsAt_cons (mark : Char) (r : List Char) : StopsAt mark (mark :: r) := by
  rintro _ ⟨⟩
  rfl

/-- A text that stops at a mark does not go on where one without the mark does. -/
theorem StopsAt.ne_cons_append {mark c : Char} {r cs s : List Char} (hr : StopsAt mark r)
    (hcs : mark ∉ c :: cs) : r ≠ c :: cs ++ s := by
  rintro rfl
  have hc : c = mark := hr c rfl
  exact hcs (by simp [hc])

namespace Readable

theorem upTo (mark : Char) : Readable id (mark ∉ ·) (StopsAt mark) := by
  intro xs ys r s hxs hys hr hs heq
  rw [id, id] at heq
  induction xs generalizing ys with
  | nil =>
      cases ys with
      | nil => exact ⟨rfl, heq⟩
      | cons y ys => exact absurd heq (hr.ne_cons_append hys)
  | cons x xs ih =>
      cases ys with
      | nil => exact absurd heq.symm (hs.ne_cons_append hxs)
      | cons y ys =>
          obtain ⟨rfl, htail⟩ := List.cons.inj heq
          obtain ⟨rfl, hrest⟩ :=
            ih (List.not_mem_of_not_mem_cons hxs) (List.not_mem_of_not_mem_cons hys) htail
          exact ⟨rfl, hrest⟩

/-- Which of two texts it is can be read back if neither begins with the other. -/
theorem flag (write : Bool → List Char) (h : ∀ b, ¬ write b <+: write !b) {a b : Bool}
    {r s : List Char} (heq : write a ++ r = write b ++ s) : a = b ∧ r = s := by
  have hsame : a = b := by
    by_contra hne
    obtain rfl : b = !a := Bool.eq_not.mpr (Ne.symm hne)
    have hother : write (!a) <+: write a ++ r := heq ▸ List.prefix_append _ s
    rcases List.prefix_or_prefix_of_prefix (List.prefix_append _ r) hother with hprefix | hprefix
    · exact h a hprefix
    · exact h (!a) (by rwa [Bool.not_not])
  subst hsame
  exact ⟨rfl, List.append_cancel_left heq⟩

/-- The same from the end: which of two endings it is can be told if neither ends with the other. -/
theorem flagAtEnd (write : Bool → List Char) (h : ∀ b, ¬ write b <:+ write !b) {a b : Bool}
    {r s : List Char} (heq : r ++ write a = s ++ write b) : r = s ∧ a = b := by
  have hreverse := congrArg List.reverse heq
  rw [List.reverse_append, List.reverse_append] at hreverse
  obtain ⟨hsame, hrest⟩ := flag (fun b => (write b).reverse)
    (fun b hprefix => h b (List.reverse_prefix.mp hprefix)) hreverse
  exact ⟨List.reverse_injective hrest, hsame⟩

/-- A number between two fixed texts can be read back if the second does not begin with a digit. -/
theorem number (mark : Char) {before after : String} (hafter : after.toList.head? = some mark)
    (hmark : mark.isDigit = false) {n m : Nat} {r s : List Char}
    (heq : (before ++ toString n ++ after).toList ++ r =
      (before ++ toString m ++ after).toList ++ s) : n = m ∧ r = s := by
  have hdigits (n : Nat) : (toString n).toList = Nat.toDigits 10 n := Nat.toList_repr
  have hstops (r : List Char) : StopsAt mark (after.toList ++ r) := by
    intro c hc
    rw [List.head?_append, hafter] at hc
    exact (Option.some.inj hc).symm
  simp only [String.toList_append, List.append_assoc, hdigits] at heq
  obtain ⟨hsame, hrest⟩ :=
    upTo mark (not_mem_toDigits hmark n) (not_mem_toDigits hmark m) (hstops r) (hstops s)
      (List.append_cancel_left heq)
  exact ⟨toDigits_inj.mp hsame, List.append_cancel_left hrest⟩

section Lists

variable {A : Type} {write : A → List Char} {Valid : A → Prop} {Follows End : List Char → Prop}

/-- Values one after another can be read back up to an end that does not look like a value. -/
theorem list (h : Readable write Valid Follows) (hnext : ∀ a r, Follows (write a ++ r))
    (hend : ∀ r, End r → Follows r) (hstop : ∀ a r, ¬ End (write a ++ r)) :
    Readable (List.flatMap write) (fun as => ∀ a ∈ as, Valid a) End := by
  have hfollows (as : List A) {r : List Char} (hr : End r) :
      Follows (as.flatMap write ++ r) := by
    cases as with
    | nil => exact hend r hr
    | cons a as =>
        rw [List.flatMap_cons, List.append_assoc]
        exact hnext a _
  intro as bs r s has hbs hr hs heq
  -- Where one list has ended, what comes after it cannot look like a value of the other.
  induction as generalizing bs with
  | nil =>
      cases bs with
      | nil => exact ⟨rfl, heq⟩
      | cons b bs =>
          rw [List.flatMap_nil, List.nil_append, List.flatMap_cons, List.append_assoc] at heq
          rw [heq] at hr
          exact absurd hr (hstop b _)
  | cons a as ih =>
      cases bs with
      | nil =>
          rw [List.flatMap_nil, List.nil_append, List.flatMap_cons, List.append_assoc] at heq
          rw [← heq] at hs
          exact absurd hs (hstop a _)
      | cons b bs =>
          rw [List.flatMap_cons, List.flatMap_cons, List.append_assoc, List.append_assoc] at heq
          obtain ⟨ha, has'⟩ := List.forall_mem_cons.mp has
          obtain ⟨hb, hbs'⟩ := List.forall_mem_cons.mp hbs
          obtain ⟨rfl, htail⟩ := h ha hb (hfollows as hr) (hfollows bs hs) heq
          obtain ⟨rfl, hrest⟩ := ih has' hbs' htail
          exact ⟨rfl, hrest⟩

end Lists

end Readable

theorem toList_intercalate_of_ne_nil {sep : String} {texts : List String} (h : texts ≠ []) :
    sep.toList ++ (sep.intercalate texts).toList =
      texts.flatMap fun t => sep.toList ++ t.toList := by
  induction texts with
  | nil => exact absurd rfl h
  | cons t rest ih =>
      cases rest with
      | nil => simp
      | cons u more =>
          rw [List.flatMap_cons, ← ih (List.cons_ne_nil u more), String.intercalate_cons_cons]
          simp only [String.toList_append, List.append_assoc]

theorem eq_nil_of_intercalate_eq_empty {sep : String} {texts : List String}
    (hne : ∀ t ∈ texts, t ≠ "") (h : sep.intercalate texts = "") : texts = [] := by
  cases texts with
  | nil => rfl
  | cons t rest =>
      have ht : t ≠ "" := hne t (by simp)
      cases rest with
      | nil => exact absurd (by rwa [String.intercalate_singleton] at h) ht
      | cons u more =>
          rw [String.intercalate_cons_cons, String.append_eq_empty_iff,
            String.append_eq_empty_iff] at h
          exact absurd h.1.1 ht

namespace Readable

variable {A : Type} {sep : String} {text : A → String} {Valid : A → Prop}
  {Follows : List Char → Prop}

/-- Values between separators can be read back, if there is one, as if a separator stood before the
first of them too. -/
theorem separated (h : Readable (fun a => sep.toList ++ (text a).toList) Valid Follows)
    (End : List Char → Prop)
    (hnext : ∀ a r, Follows (sep.toList ++ (text a).toList ++ r)) (hend : ∀ r, End r → Follows r)
    (hstop : ∀ a r, ¬ End (sep.toList ++ (text a).toList ++ r)) :
    Readable (fun as => (sep.intercalate (as.map text)).toList)
      (fun as => as ≠ [] ∧ ∀ a ∈ as, Valid a) End := by
  have hlist := list h hnext hend hstop
  have hwhole {as : List A} (has : as ≠ []) : sep.toList ++ (sep.intercalate (as.map text)).toList =
      as.flatMap fun a => sep.toList ++ (text a).toList := by
    rw [toList_intercalate_of_ne_nil (by simpa using has), List.flatMap_map]
  rintro as bs r s ⟨hne, has⟩ ⟨hne', hbs⟩ hr hs heq
  apply hlist has hbs hr hs
  rw [← hwhole hne, ← hwhole hne', List.append_assoc, List.append_assoc, heq]

/-- A whole text of values between separators tells the values, also if there is none. -/
theorem separated_injective
    (h : Readable (fun a => sep.toList ++ (text a).toList) Valid Follows)
    (hnext : ∀ a r, Follows (sep.toList ++ (text a).toList ++ r)) (hend : Follows [])
    (hsep : sep ≠ "") (hne : ∀ a, text a ≠ "") {as bs : List A} (has : ∀ a ∈ as, Valid a)
    (hbs : ∀ b ∈ bs, Valid b)
    (heq : sep.intercalate (as.map text) = sep.intercalate (bs.map text)) : as = bs := by
  have hempty {cs : List A} (hcs : sep.intercalate (cs.map text) = "") : cs = [] := by
    refine List.map_eq_nil_iff.mp (eq_nil_of_intercalate_eq_empty ?_ hcs)
    intro t ht
    obtain ⟨c, _, rfl⟩ := List.mem_map.mp ht
    exact hne c
  have hread := h.separated (· = []) hnext (fun r hr => by rwa [hr]) fun a r hr => by
    simp [hsep] at hr
  by_cases hnone : as = []
  · rw [hnone] at heq ⊢
    exact (hempty (by rw [← heq]; rfl)).symm
  · by_cases hnone' : bs = []
    · rw [hnone'] at heq
      exact absurd (hempty (by rw [heq]; rfl)) hnone
    · exact (hread ⟨hnone, has⟩ ⟨hnone', hbs⟩ rfl rfl (by simp only [heq])).1

end Readable

end BroadcastFilter
