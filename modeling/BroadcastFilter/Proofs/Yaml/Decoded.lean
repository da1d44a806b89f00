import BroadcastFilter.Config.Schema
import BroadcastFilter.Decode.Format
import BroadcastFilter.Proofs.Grammar
import BroadcastFilter.Proofs.Yaml.Tokens

/-!
Reading from printed nodes. Whatever a reader of records makes of a value it makes of the node that
was printed for it: numbers and truth values are told by the text of their scalars, strings whose
text could be taken for something else are quoted, and no value stands for an absent one.
-/

namespace BroadcastFilter

open Json Decode Yaml

namespace Yaml.Scalar

theorem digit?_of_isDigit {c : Char} (h : c.isDigit = true) :
    digit? 10 c = some (c.toNat - '0'.toNat) := by
  have hcode : 48 ≤ c.toNat ∧ c.toNat ≤ 57 := by
    rw [Char.isDigit, Bool.and_eq_true, decide_eq_true_eq, decide_eq_true_eq] at h
    exact h
  have hfirst : '0' ≤ c := hcode.1
  have hlast : c ≤ '9' := hcode.2
  simp only [digit?, hfirst, hlast, and_self, if_true]
  exact if_pos (by omega)

theorem ofDigits?_decimal {cs : List Char} (hne : cs ≠ []) (h : ∀ c ∈ cs, c.isDigit = true) :
    ofDigits? 10 cs = some (Nat.ofDigitChars 10 cs 0) := by
  have hfold (n : Nat) : cs.foldl
      (fun n c => n.bind fun n => (digit? 10 c).map (n * 10 + ·)) (some n) =
      some (Nat.ofDigitChars 10 cs n) := by
    clear hne
    rw [Nat.ofDigitChars_eq_foldl]
    induction cs generalizing n with
    | nil => rfl
    | cons c cs ih =>
        rw [List.foldl_cons, List.foldl_cons, digit?_of_isDigit (h c (by simp)), Option.bind_some,
          Option.map_some, ih (fun d hd => h d (by simp [hd])), Nat.mul_comm]
  rw [ofDigits?, hfold, if_neg (by simpa using hne)]

theorem ofDigits?_toDigits (n : Nat) : ofDigits? 10 (Nat.toDigits 10 n) = some n := by
  rw [ofDigits?_decimal Nat.toDigits_ne_nil
    fun c => Nat.isDigit_of_mem_toDigits (by decide) (by decide),
    Nat.ofDigitChars_toDigits (by decide) (by decide)]

/-- The digits of a number do not begin with a zero, unless there is nothing else. -/
theorem head?_toDigits {n : Nat} (hn : 0 < n) : (Nat.toDigits 10 n).head? ≠ some '0' := by
  induction n using Nat.strongRecOn with
  | _ n ih =>
      by_cases hsmall : n < 10
      · have hdigit : ∀ m < 10, 0 < m → [Nat.digitChar m].head? ≠ some '0' := by decide
        rw [Nat.toDigits_of_lt_base hsmall]
        exact hdigit n hsmall hn
      · rw [Nat.toDigits_of_base_le (by decide) (by omega),
          List.head?_append_of_ne_nil _ Nat.toDigits_ne_nil]
        exact ih (n / 10) (by omega) (by omega)

theorem magnitude?_toDigits (n : Nat) : magnitude? (Nat.toDigits 10 n) = some n := by
  rcases Nat.eq_zero_or_pos n with rfl | hn
  · rfl
  · have hdigits := ofDigits?_toDigits n
    have hhead := head?_toDigits hn
    obtain ⟨c, cs, heq, h⟩ := Printer.exists_digits n
    rw [heq] at hdigits hhead ⊢
    have hc : c ≠ '0' := by simpa using hhead
    have hplus : c ≠ '+' := ne_of_isWordChar (isWordChar_of_isDigit (h c (by simp))) (by decide)
    have hminus : c ≠ '-' := ne_of_isWordChar (isWordChar_of_isDigit (h c (by simp))) (by decide)
    simp [magnitude?, hasLeadingZero, hc, hplus, hminus, hdigits]

theorem natural?_whole (n : Nat) : natural? (Number.integer n).toText = some n := by
  have hlist : (Number.integer n).toText.toList = Nat.toDigits 10 n := by
    rw [Printer.toList_whole, if_pos (by omega), Int.toNat_natCast]
  have hmagnitude := magnitude?_toDigits n
  obtain ⟨c, cs, heq, h⟩ := Printer.exists_digits n
  rw [natural?, hlist]
  rw [heq] at hmagnitude ⊢
  have hplus : c ≠ '+' := ne_of_isWordChar (isWordChar_of_isDigit (h c (by simp))) (by decide)
  simp [hplus, hmagnitude]

theorem integer?_whole (n : Int) : integer? (Number.integer n).toText = some n := by
  by_cases hn : 0 ≤ n
  · obtain ⟨m, rfl⟩ := Int.eq_ofNat_of_zero_le hn
    have hlist := Printer.toList_whole m
    obtain ⟨c, cs, heq, h⟩ := Printer.exists_digits m
    rw [if_pos hn, Int.toNat_natCast, heq] at hlist
    have hminus : c ≠ '-' := ne_of_isWordChar (isWordChar_of_isDigit (h c (by simp))) (by decide)
    simp [integer?, hlist, hminus, natural?_whole]
  · have hlist := Printer.toList_whole n
    rw [if_neg hn] at hlist
    simp only [integer?, hlist, magnitude?_toDigits, Option.pure_def, Option.bind_eq_bind,
      Option.bind_some, Option.map_some, Option.some.injEq]
    omega

/-- A number is not taken for nothing. -/
theorem whole_ne_null (n : Int) :
    (Number.integer n).toText ≠ "" ∧ isNull (Number.integer n).toText = false := by
  have hnot {s : String} (hs : integer? s = none) : (Number.integer n).toText ≠ s := by
    intro heq
    have hn := integer?_whole n
    rw [heq, hs] at hn
    cases hn
  have hnull := hnot (show integer? "null" = none by decide)
  have hNull := hnot (show integer? "Null" = none by decide)
  have hNULL := hnot (show integer? "NULL" = none by decide)
  have htilde := hnot (show integer? "~" = none by decide)
  exact ⟨hnot (by decide), by simp [isNull, hnull, hNull, hNULL, htilde]⟩

end Yaml.Scalar

namespace Decode

open Printer (Laid LaidRecord)

namespace Spot

/-- What stands here is the printed node of a value. -/
def Shows (s : Spot) (v : Value) : Prop := s.node = Printer.node v

theorem Shows.target_eq {s : Spot} {v : Value} (h : s.Shows v) : s.target = Printer.node v := by
  rw [target, h]
  cases v <;> rfl

end Spot

/-- Whatever is read from a value with the property is read from its printed node. -/
def Carries {A : Type} (P : Value → Prop) (read : Reader A) : Prop :=
  ∀ (v : Value) (s : Spot) (a : A), P v → s.Shows v → read v = .ok a → read s = .ok a

section Scalars

variable {s : Spot} {P : Value → Prop}

theorem carries_text : Carries P Source.text := by
  intro v s a _ hs h
  cases text_eq_ok_iff.mp h
  simp [Source.text, hs.target_eq, Printer.node]

theorem scalar_eq_ok {A : Type} {text : String} {read : String → Option A} {a : A}
    (core : Scalar.CoreTag) (wanted : Wanted)
    (htarget : s.target = .scalar text .plain none) (hread : read text = some a) :
    s.scalar core wanted read = .ok a := by
  simp [Spot.scalar, htarget, Scalar.mayBe, hread]

theorem carries_flag : Carries P Source.flag := by
  intro v s a _ hs h
  cases flag_eq_ok_iff.mp h
  refine scalar_eq_ok .flag .flag hs.target_eq ?_
  cases a <;> rfl

theorem carries_natural : Carries P Source.natural := by
  intro v s a _ hs h
  cases natural_eq_ok_iff.mp h
  refine scalar_eq_ok .integer .natural hs.target_eq ?_
  rw [Scalar.natural?_whole, Option.bind_some, if_pos a.toNat_lt, UInt64.ofNat_toNat]

theorem carries_integer : Carries P Source.integer := by
  intro v s a _ hs h
  cases integer_eq_ok_iff.mp h
  refine scalar_eq_ok .integer .integer hs.target_eq ?_
  rw [Scalar.integer?_whole, Option.bind_some, if_pos ⟨a.minValue_le_toInt, a.toInt_le⟩,
    Int64.ofInt_toInt]

/-- No value is taken for an absent one. -/
theorem optional_of_laid {v : Value} (hv : Laid v) (hs : s.Shows v) :
    Source.optional s = .ok (some s) := by
  have htarget := hs.target_eq
  cases hv with
  | bool b => cases b <;> simp [Source.optional, htarget, Printer.node, Scalar.isNull]
  | whole n => simp [Source.optional, htarget, Printer.node, Scalar.whole_ne_null n]
  | string t =>
      rw [Printer.node] at htarget
      rcases Printer.string_cases t with ⟨h, -⟩ | ⟨h, -, hresolve, -⟩ | ⟨h, -⟩ | ⟨h, -⟩
      · simp [Source.optional, htarget, h]
      · have hnull : ¬ (t = "" ∨ Scalar.isNull t = true) := by
          intro hnull
          rw [Scalar.resolve, if_pos hnull] at hresolve
          cases hresolve
        simp [Source.optional, htarget, h, hnull]
      · simp [Source.optional, htarget, h]
      · simp [Source.optional, htarget, h]
  | records => simp [Source.optional, htarget, Printer.node]

theorem carries_optionally {A : Type} {read : Reader A} (h : Carries Laid read) :
    Carries Laid (optionally read) := by
  intro v s a hv hs hread
  obtain ⟨held, hheld, hread⟩ := eq_ok_of_bind.mp hread
  have hsome : Source.optional v = .ok (some v) := by
    cases hv <;> rfl
  rw [hsome, Except.ok.injEq] at hheld
  subst hheld
  obtain ⟨b, hb, hread⟩ := eq_ok_of_bind.mp hread
  refine eq_ok_of_bind.mpr ⟨some s, optional_of_laid hv hs, ?_⟩
  exact eq_ok_of_bind.mpr ⟨b, h v s b hv hs hb, hread⟩

end Scalars

/-- The items of a list, wherever it stands. -/
theorem mapM_items {A : Type} {read : Reader A} (h : Carries LaidRecord read) (d : Yaml.Document)
    (p : Place) {records : List (List (String × Value))}
    (hrecords : ∀ r ∈ records, LaidRecord (.object r)) {as : List A}
    (hread : (records.map Value.object).mapM read = .ok as) (index : Nat) :
    (((Printer.itemNodes (records.map .object)).zipIdx index).map fun (item, index) =>
      (⟨d, item, p.item index, p⟩ : Spot)).mapM read = .ok as := by
  induction records generalizing index as with
  | nil => exact hread
  | cons record records ih =>
      simp only [List.map_cons, List.mapM_cons, Printer.itemNodes, List.zipIdx_cons] at hread ⊢
      obtain ⟨a, ha, hread⟩ := eq_ok_of_bind.mp hread
      obtain ⟨more, hmore, hread⟩ := eq_ok_of_bind.mp hread
      refine eq_ok_of_bind.mpr ⟨a, h _ _ a (hrecords record (by simp)) rfl ha, ?_⟩
      refine eq_ok_of_bind.mpr ⟨more, ?_, hread⟩
      exact ih (fun r hr => hrecords r (by simp [hr])) hmore (index + 1)

theorem carries_list {A : Type} {read : Reader A} (h : Carries LaidRecord read) :
    Carries Laid (listOf read) := by
  intro v s as hv hs hread
  obtain ⟨items, hitems, hread⟩ := eq_ok_of_bind.mp hread
  cases hv with
  | bool b => cases hitems
  | whole n => cases hitems
  | string t => cases hitems
  | @records records hne hwords hvalues =>
      cases hitems
      have hrecords : ∀ r ∈ records, LaidRecord (.object r) := fun r hr =>
        .entries (hne r hr) (hwords r hr) (hvalues r hr)
      refine eq_ok_of_bind.mpr ⟨_, ?_, mapM_items h s.document s.place hrecords hread 0⟩
      simp [Source.items, hs.target_eq, Printer.node]

variable {R : Type}

/-- One field as it is read from values and from nodes. -/
structure Field.Carries (f : Field Value R) (g : Field Spot R) : Prop where
  name : f.name = g.name
  required : f.required = g.required
  read : ∀ (v : Value) (s : Spot) (r r' : R), Laid v → s.Shows v → f.read v r = .ok r' →
    g.read s r = .ok r'

section

variable {A : Type} {name : String} {readValue : Reader A} {get : R → A} {put : A → R → R}
  {get_put : ∀ a r, get (put a r) = a}

theorem Field.carries_needed (h : Decode.Carries Laid readValue) :
    Field.Carries (.needed name readValue get put get_put)
      (.needed name readValue get put get_put) where
  name := rfl
  required := rfl
  read v s r r' hv hs hread := by
    obtain ⟨a, ha, hput⟩ := Field.read_eq_ok_iff.mp hread
    exact Field.read_eq_ok_iff.mpr ⟨a, h v s a hv hs ha, hput⟩

theorem Field.carries_defaulted (h : Decode.Carries Laid readValue) :
    Field.Carries (.defaulted name readValue get put get_put)
      (.defaulted name readValue get put get_put) where
  name := rfl
  required := rfl
  read v s r r' hv hs hread := by
    obtain ⟨a, ha, hput⟩ := Field.read_eq_ok_iff.mp hread
    exact Field.read_eq_ok_iff.mpr ⟨a, h v s a hv hs ha, hput⟩

end

/-- The same field is found in both lists, or none. -/
theorem find?_rel {fs : List (Field Value R)} {gs : List (Field Spot R)}
    (h : List.Forall₂ Field.Carries fs gs) {p : Field Value R → Bool} {q : Field Spot R → Bool}
    (hpq : ∀ f g, Field.Carries f g → p f = q g) :
    Option.Rel Field.Carries (fs.find? p) (gs.find? q) := by
  induction h with
  | nil => exact .none
  | cons hfirst _ ih =>
      rw [List.find?_cons, List.find?_cons, hpq _ _ hfirst]
      split
      · exact .some hfirst
      · exact ih

/-- A schema as it is read from values and from nodes. No value is passed over by it. -/
structure Schema.Carries (S : Schema Value R) (T : Schema Spot R) : Prop where
  strict : S.strict = true
  blank : S.blank = T.blank
  fields : List.Forall₂ Field.Carries S.fields T.fields

theorem Schema.Carries.readKeyed {S : Schema Value R} {T : Schema Spot R} (h : S.Carries T)
    (v : Value) (s : Spot) {entries : List (String × Value)} (hvalues : ∀ e ∈ entries, Laid e.2)
    {seen : List String} {r r' : R}
    (hread : S.readKeyed v (entries.map fun (key, v) => (.ok key, v)) seen r = .ok r') :
    T.readKeyed s ((Printer.entryNodes entries).map fun (key, v) =>
      (Spot.keyText s.document s.place .fieldName key,
        ⟨s.document, v, s.place.entry key, s.place⟩)) seen r = .ok r' := by
  induction entries generalizing seen r with
  | nil =>
      have hfind := find?_rel h.fields (p := fun f => f.required && !seen.contains f.name)
        (q := fun f => f.required && !seen.contains f.name)
        fun f g hfg => by rw [hfg.name, hfg.required]
      simp only [List.map_nil, Printer.entryNodes, Schema.readKeyed] at hread ⊢
      generalize S.fields.find? _ = left at hfind hread
      generalize T.fields.find? _ = right at hfind
      cases hfind with
      | none => exact hread
      | some => cases hread
  | cons e entries ih =>
      obtain ⟨name, w⟩ := e
      have hfind := find?_rel h.fields (p := (·.name == name)) (q := (·.name == name))
        fun f g hfg => by rw [hfg.name]
      have hkey : Spot.keyText s.document s.place .fieldName (.scalar name .plain none) =
          .ok name := rfl
      simp only [List.map_cons, Printer.entryNodes, Schema.readKeyed, hkey, eq_ok_of_bind,
        Except.ok.injEq, exists_eq_left'] at hread ⊢
      generalize S.fields.find? _ = left at hfind hread
      generalize T.fields.find? _ = right at hfind
      cases hfind with
      | none => simp [h.strict] at hread
      | @some f g hfg =>
          simp only at hread ⊢
          split at hread
          · cases hread
          next hseen =>
            obtain ⟨r₁, hfirst, hread⟩ := eq_ok_of_bind.mp hread
            rw [if_neg hseen]
            have hfirst' := hfg.read w ⟨s.document, Printer.node w, s.place.entry
              (.scalar name .plain none), s.place⟩ r r₁ (hvalues (name, w) (by simp)) rfl hfirst
            refine eq_ok_of_bind.mpr ⟨r₁, hfirst', ?_⟩
            exact ih (fun e he => hvalues e (by simp [he])) hread

theorem Schema.Carries.read {S : Schema Value R} {T : Schema Spot R} (h : S.Carries T)
    {v : Value} {s : Spot} {r : R} (hv : LaidRecord v) (hs : s.Shows v)
    (hread : S.read v = .ok r) : T.read s = .ok r := by
  obtain @⟨record, -, -, hvalues⟩ := hv
  obtain ⟨parts, hparts, hread⟩ := eq_ok_of_bind.mp hread
  cases hparts
  refine eq_ok_of_bind.mpr ⟨.keyed ((Printer.entryNodes record).map fun (key, v) =>
    (Spot.keyText s.document s.place .fieldName key,
      ⟨s.document, v, s.place.entry key, s.place⟩)), ?_, ?_⟩
  · simp [Source.parts, hs.target_eq, Printer.node]
  · rw [← h.blank]
    exact h.readKeyed (.object record) s hvalues hread

end Decode

end BroadcastFilter
