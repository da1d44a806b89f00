import BroadcastFilter.Config.Schema
import BroadcastFilter.Decode.Json
import Mathlib.Data.List.Nodup

/-!
Records in documents, said without the reader: which values are a record with given fields, and
which part of such a value each field has. The reader of a schema takes exactly these values,
written with names in any order or as a list, and every component of what it reads comes from the
part of its field, or is the default if the field has no part.
-/

namespace BroadcastFilter

open Decode

namespace Json

/-- One field of a record in a document: its name, whether it has to be there, and which values it
may have. -/
structure Clause where
  name : String
  needed : Bool
  fits : Value → Prop

namespace Clause

/-- The entries of an object are a record: no field stands twice, every field that has to be there
is, and every field has a fitting value. In a strict record nothing else is there. -/
structure Keyed (clauses : List Clause) (strict : Bool) (entries : List (String × Value)) :
    Prop where
  known : strict = true → ∀ e ∈ entries, e.1 ∈ clauses.map (·.name)
  once : ((entries.map (·.1)).filter (· ∈ clauses.map (·.name))).Nodup
  present : ∀ c ∈ clauses, c.needed = true → c.name ∈ entries.map (·.1)
  values : ∀ c ∈ clauses, ∀ v, (c.name, v) ∈ entries → c.fits v

/-- The items of an array are a record: they are fitting values of the first fields, in order, and
no field after these has to be there. -/
inductive Listed : List Clause → List Value → Prop where
  | done {clauses : List Clause} (hdefaults : ∀ c ∈ clauses, c.needed = false) :
      Listed clauses []
  | next {c : Clause} {clauses : List Clause} {v : Value} {items : List Value}
      (hfits : c.fits v) (hrest : Listed clauses items) : Listed (c :: clauses) (v :: items)

theorem listed_nil_iff {clauses : List Clause} :
    Listed clauses [] ↔ ∀ c ∈ clauses, c.needed = false :=
  ⟨fun | .done hdefaults => hdefaults, .done⟩

theorem listed_cons_iff {c : Clause} {clauses : List Clause} {v : Value} {items : List Value} :
    Listed (c :: clauses) (v :: items) ↔ c.fits v ∧ Listed clauses items :=
  ⟨fun | .next hfits hrest => ⟨hfits, hrest⟩, fun ⟨hfits, hrest⟩ => .next hfits hrest⟩

end Clause

/-- The value is a record with the given fields, as an object or as an array. -/
def IsRecord (clauses : List Clause) (strict : Bool) : Value → Prop
  | .object entries => Clause.Keyed clauses strict entries
  | .array items => Clause.Listed clauses items
  | _ => False

/-- The part of a record that belongs to a field: what stands under its name, or at its place among
all fields. -/
def Clause.part? (clauses : List Clause) (name : String) : Value → Option Value
  | .object entries => entries.lookup name
  | .array items => ((clauses.map (·.name)).zip items).lookup name
  | _ => none

theorem lookup_eq_none_iff_not_mem {B : Type} {entries : List (String × B)} {name : String} :
    entries.lookup name = none ↔ name ∉ entries.map (·.1) := by
  simp only [List.lookup_eq_none_iff, bne_iff_ne, ne_eq, List.mem_map, not_exists, not_and,
    eq_comm (a := name)]

theorem mem_of_lookup_eq_some {B : Type} {entries : List (String × B)} {name : String} {v : B}
    (h : entries.lookup name = some v) : (name, v) ∈ entries := by
  obtain ⟨before, after, rfl, _⟩ := List.lookup_eq_some_iff.mp h
  exact List.mem_append_right _ (List.mem_cons_self ..)

theorem lookup_eq_some_of_mem {B : Type} {entries : List (String × B)}
    (hnodup : (entries.map (·.1)).Nodup) {name : String} {v : B} (h : (name, v) ∈ entries) :
    entries.lookup name = some v := by
  obtain ⟨before, after, rfl⟩ := List.append_of_mem h
  refine List.lookup_eq_some_iff.mpr ⟨before, after, rfl, fun e he => ?_⟩
  rw [List.map_append, List.map_cons, List.nodup_middle, List.nodup_cons] at hnodup
  rw [bne_iff_ne]
  intro hsame
  exact hnodup.1 (List.mem_append_left _ (List.mem_map.mpr ⟨e, he, hsame.symm⟩))

/-- A record has a part for every field that has to be there. -/
theorem IsRecord.needed_eq_false {clauses : List Clause} {strict : Bool} {v : Value}
    (h : IsRecord clauses strict v) {c : Clause} (hc : c ∈ clauses)
    (hpart : Clause.part? clauses c.name v = none) : c.needed = false := by
  cases v with
  | object entries =>
      rw [← Bool.not_eq_true]
      intro hneeded
      exact lookup_eq_none_iff_not_mem.mp hpart (h.present c hc hneeded)
  | array items =>
      have hlisted : Clause.Listed clauses items := h
      induction hlisted with
      | done hdefaults => exact hdefaults c hc
      | @next c' clauses v items _ hrest ih =>
          simp only [Clause.part?, List.map_cons, List.zip_cons_cons, List.lookup_cons] at hpart
          split at hpart
          · cases hpart
          next hne =>
            rcases List.mem_cons.mp hc with rfl | hc
            · simp at hne
            · exact ih hc hrest hpart
  | null => exact h.elim
  | bool b => exact h.elim
  | number n => exact h.elim
  | string t => exact h.elim

/-- What a component of a record is: what its part says or, where the part is left out, the default.
A component without default has a part. -/
def Given {A : Type} (tells : Value → A → Prop) (default : Option A) (part : Option Value) (a : A) :
    Prop :=
  match part with
  | some v => tells v a
  | none => default = some a

/-- A part is read as one value only, and a part that is left out has one default. -/
theorem Given.unique {A : Type} {read : Value → Except Error A} {default : Option A}
    {part : Option Value} {a b : A} (ha : Given (fun v a => read v = .ok a) default part a)
    (hb : Given (fun v a => read v = .ok a) default part b) : a = b := by
  cases part with
  | some v => exact Except.ok.inj (ha.symm.trans hb)
  | none => exact Option.some.inj (ha.symm.trans hb)

end Json

open Json

namespace Decode

theorem eq_ok_of_bind {A B : Type} {x : Except Error A} {f : A → Except Error B} {b : B} :
    (x >>= f) = .ok b ↔ ∃ a, x = .ok a ∧ f a = .ok b := by
  cases x <;> simp [bind, Except.bind]

namespace Field

variable {N R : Type}

theorem read_eq_ok_iff {f : Field N R} {n : N} {r r' : R} :
    f.read n r = .ok r' ↔ ∃ a, f.readValue n = .ok a ∧ f.put a r = r' := by
  simp only [read, eq_ok_of_bind, pure, Except.pure, Except.ok.injEq]

/-- What a document has to say of the field for the reader to take it. -/
def clause (f : Field Value R) : Clause :=
  ⟨f.name, f.required, fun v => ∃ a, f.readValue v = .ok a⟩

/-- The reader of a field takes the values of its clause, whatever the record so far. -/
theorem read_succeeds_iff (f : Field Value R) (v : Value) (r : R) :
    (∃ r', f.read v r = .ok r') ↔ f.clause.fits v := by
  simp only [read_eq_ok_iff]
  exact ⟨fun ⟨_, a, h, _⟩ => ⟨a, h⟩, fun ⟨a, h⟩ => ⟨_, a, h, rfl⟩⟩

/-- The value gives the field's component of a record: the field's part tells it, or there is none
and it is the component of the blank record. -/
def Gives (clauses : List Clause) (blank : R) (f : Field Value R) (v : Value) (r : R) : Prop :=
  Given (fun w a => f.readValue w = .ok a) (if f.required then none else some (f.get blank))
    (Clause.part? clauses f.name v) (f.get r)

theorem Gives.get_eq {clauses : List Clause} {blank : R} {f : Field Value R} {v : Value} {r r' : R}
    (h : f.Gives clauses blank v r) (h' : f.Gives clauses blank v r') : f.get r = f.get r' :=
  Given.unique h h'

section

variable {A : Type} {name : String} {readValue : Value → Except Error A} {get : R → A}
  {put : A → R → R} {get_put : ∀ a r, get (put a r) = a} {clauses : List Clause} {blank : R}
  {v : Value} {r : R}

theorem clause_needed :
    (needed name readValue get put get_put).clause =
      ⟨name, true, fun v => ∃ a, readValue v = .ok a⟩ := rfl

theorem clause_defaulted :
    (defaulted name readValue get put get_put).clause =
      ⟨name, false, fun v => ∃ a, readValue v = .ok a⟩ := rfl

theorem gives_needed :
    (needed name readValue get put get_put).Gives clauses blank v r ↔
      Given (fun w a => readValue w = .ok a) none (Clause.part? clauses name v) (get r) := Iff.rfl

theorem gives_defaulted :
    (defaulted name readValue get put get_put).Gives clauses blank v r ↔
      Given (fun w a => readValue w = .ok a) (some (get blank)) (Clause.part? clauses name v)
        (get r) := Iff.rfl

end

end Field

namespace Schema

variable {R : Type} {s : Schema Value R}

def names (s : Schema Value R) : List String := s.fields.map (·.name)

def clauses (s : Schema Value R) : List Clause := s.fields.map (·.clause)

theorem names_clauses (s : Schema Value R) : s.clauses.map (·.name) = s.names := by
  simp [clauses, names, Field.clause, Function.comp_def]

/-- No two fields have one name, a field leaves the components of all others as they are, and a
record has no component that is not a field's. -/
structure Regular (s : Schema Value R) : Prop where
  names_nodup : s.names.Nodup
  apart : ∀ f ∈ s.fields, ∀ g ∈ s.fields, g.name ≠ f.name → ∀ a r, f.get (g.put a r) = f.get r
  ext : ∀ r r', (∀ f ∈ s.fields, f.get r = f.get r') → r = r'

theorem Regular.find?_eq_some_iff (hs : s.Regular) {name : String} {f : Field Value R} :
    s.fields.find? (·.name == name) = some f ↔ f ∈ s.fields ∧ f.name = name := by
  constructor
  · intro h
    exact ⟨List.mem_of_find?_eq_some h, by simpa using List.find?_some h⟩
  · rintro ⟨hf, rfl⟩
    cases hfind : s.fields.find? (·.name == f.name) with
    | none => simpa using List.find?_eq_none.mp hfind f hf
    | some g =>
        have hg : g ∈ s.fields := List.mem_of_find?_eq_some hfind
        have hname : g.name = f.name := by simpa using List.find?_some hfind
        rw [List.inj_on_of_nodup_map hs.names_nodup hg hf hname]

theorem name_ne_of_not_mem {name : String} (hname : name ∉ s.names) {f : Field Value R}
    (hf : f ∈ s.fields) : f.name ≠ name := by
  rintro rfl
  exact hname (List.mem_map_of_mem hf)

theorem find?_eq_none_iff {name : String} :
    s.fields.find? (·.name == name) = none ↔ name ∉ s.names := by
  simp [names]

/-- Entries whose names are all texts, as the reader takes them. -/
def keyed (entries : List (String × Value)) : List (Except Error String × Value) :=
  entries.map fun (name, v) => (.ok name, v)

/-- All that reading an entry can do: put the value of a field that has not been read, or pass over
a name that is not known. -/
theorem readKeyed_cons_eq_ok_iff (hs : s.Regular) {v w : Value} {name : String}
    {rest : List (String × Value)} {seen : List String} {r r' : R} :
    s.readKeyed v (keyed ((name, w) :: rest)) seen r = .ok r' ↔
      (∃ f ∈ s.fields, f.name = name ∧ name ∉ seen ∧ ∃ r₁, f.read w r = .ok r₁ ∧
        s.readKeyed v (keyed rest) (name :: seen) r₁ = .ok r') ∨
      (name ∉ s.names ∧ s.strict = false ∧ s.readKeyed v (keyed rest) seen r = .ok r') := by
  simp only [keyed, List.map_cons, readKeyed, eq_ok_of_bind, Except.ok.injEq, exists_eq_left']
  cases hfind : s.fields.find? (·.name == name) with
  | some f =>
      obtain ⟨hf, hname⟩ := hs.find?_eq_some_iff.mp hfind
      have hknown : name ∈ s.names := List.mem_map.mpr ⟨f, hf, hname⟩
      have honly (g : Field Value R) : g ∈ s.fields ∧ g.name = name ↔ g = f := by
        rw [← hs.find?_eq_some_iff, hfind, Option.some.injEq, eq_comm]
      by_cases hseen : name ∈ seen
      · simp [hseen, hknown]
      · simp only [List.contains_iff_mem, hseen, if_false, eq_ok_of_bind, hknown, not_true_eq_false,
          false_and, or_false, not_false_eq_true, true_and, ← and_assoc, honly, exists_eq_left]
  | none =>
      have hunknown := find?_eq_none_iff.mp hfind
      have hnone (g : Field Value R) (hg : g ∈ s.fields) : g.name ≠ name :=
        name_ne_of_not_mem hunknown hg
      cases s.strict with
      | true => simp +contextual [hunknown, hnone]
      | false => simp +contextual [hunknown, hnone, Source.skip, eq_ok_of_bind]

/-- The entries that are still to be read complete a record of which the fields `seen` have been
read. -/
structure Completes (s : Schema Value R) (seen : List String) (entries : List (String × Value)) :
    Prop where
  known : s.strict = true → ∀ e ∈ entries, e.1 ∈ s.names
  once : (seen ++ (entries.map (·.1)).filter (· ∈ s.names)).Nodup
  present : ∀ f ∈ s.fields, f.required = true → f.name ∈ seen ∨ f.name ∈ entries.map (·.1)
  values : ∀ f ∈ s.fields, ∀ v, (f.name, v) ∈ entries → f.clause.fits v

theorem completes_nil_iff {seen : List String} (hseen : seen.Nodup) :
    Completes s seen [] ↔ ∀ f ∈ s.fields, f.required = true → f.name ∈ seen := by
  constructor
  · intro h f hf hrequired
    simpa using h.present f hf hrequired
  · intro h
    exact ⟨by simp, by simpa using hseen, fun f hf hrequired => .inl (h f hf hrequired), by simp⟩

theorem completes_cons_field_iff (hs : s.Regular) {f : Field Value R} (hf : f ∈ s.fields)
    {w : Value} {rest : List (String × Value)} {seen : List String} :
    Completes s seen ((f.name, w) :: rest) ↔
      f.name ∉ seen ∧ f.clause.fits w ∧ Completes s (f.name :: seen) rest := by
  have hname : f.name ∈ s.names := List.mem_map_of_mem hf
  constructor
  · rintro ⟨hknown, honce, hpresent, hvalues⟩
    rw [List.map_cons, List.filter_cons_of_pos (by simpa using hname), List.nodup_middle] at honce
    refine ⟨?_, hvalues f hf w (by simp), ?_, honce, ?_, ?_⟩
    · intro hmem
      exact (List.nodup_cons.mp honce).1 (List.mem_append_left _ hmem)
    · intro hstrict e he
      exact hknown hstrict e (List.mem_cons_of_mem _ he)
    · intro g hg hrequired
      have := hpresent g hg hrequired
      simp only [List.map_cons, List.mem_cons] at this ⊢
      tauto
    · intro g hg v hv
      exact hvalues g hg v (List.mem_cons_of_mem _ hv)
  · rintro ⟨_, hfits, hknown, honce, hpresent, hvalues⟩
    refine ⟨?_, ?_, ?_, ?_⟩
    · intro hstrict e he
      rcases List.mem_cons.mp he with rfl | he
      · exact hname
      · exact hknown hstrict e he
    · rw [List.map_cons, List.filter_cons_of_pos (by simpa using hname), List.nodup_middle]
      exact honce
    · intro g hg hrequired
      have := hpresent g hg hrequired
      simp only [List.map_cons, List.mem_cons] at this ⊢
      tauto
    · intro g hg v hv
      rcases List.mem_cons.mp hv with heq | hv
      · obtain ⟨hsame, rfl⟩ := Prod.mk.inj heq
        rw [List.inj_on_of_nodup_map hs.names_nodup hg hf hsame]
        exact hfits
      · exact hvalues g hg v hv

theorem completes_cons_other_iff {name : String} (hname : name ∉ s.names) {w : Value}
    {rest : List (String × Value)} {seen : List String} :
    Completes s seen ((name, w) :: rest) ↔ s.strict = false ∧ Completes s seen rest := by
  have hother (f : Field Value R) (hf : f ∈ s.fields) : f.name ≠ name :=
    name_ne_of_not_mem hname hf
  constructor
  · rintro ⟨hknown, honce, hpresent, hvalues⟩
    rw [List.map_cons, List.filter_cons_of_neg (by simpa using hname)] at honce
    refine ⟨?_, ?_, honce, ?_, ?_⟩
    · rw [← Bool.not_eq_true]
      intro hstrict
      exact hname (hknown hstrict _ (List.mem_cons_self ..))
    · intro hstrict e he
      exact hknown hstrict e (List.mem_cons_of_mem _ he)
    · intro f hf hrequired
      simpa [hother f hf] using hpresent f hf hrequired
    · intro f hf v hv
      exact hvalues f hf v (List.mem_cons_of_mem _ hv)
  · rintro ⟨hlenient, hknown, honce, hpresent, hvalues⟩
    refine ⟨by simp [hlenient], ?_, ?_, ?_⟩
    · rw [List.map_cons, List.filter_cons_of_neg (by simpa using hname)]
      exact honce
    · intro f hf hrequired
      simpa [hother f hf] using hpresent f hf hrequired
    · intro f hf v hv
      refine hvalues f hf v ?_
      simpa [hother f hf] using hv

theorem readKeyed_nil_succeeds_iff {v : Value} {seen : List String} (hseen : seen.Nodup) (r : R) :
    (∃ r', s.readKeyed v (keyed []) seen r = .ok r') ↔ Completes s seen [] := by
  rw [completes_nil_iff hseen, keyed, List.map_nil, readKeyed]
  cases hfind : s.fields.find? fun f => f.required && !seen.contains f.name with
  | none =>
      have hall := List.find?_eq_none.mp hfind
      simpa using hall
  | some f =>
      have hf := List.mem_of_find?_eq_some hfind
      have hmissing := List.find?_some hfind
      simp only [Bool.and_eq_true, Bool.not_eq_true', List.contains_eq_mem,
        decide_eq_false_iff_not] at hmissing
      simp only [reduceCtorEq, exists_false, false_iff, not_forall]
      exact ⟨f, hf, hmissing.1, hmissing.2⟩

/-- Reading entries succeeds exactly if they complete the record. -/
theorem readKeyed_succeeds_iff (hs : s.Regular) {v : Value} {entries : List (String × Value)}
    {seen : List String} (hseen : seen.Nodup) (r : R) :
    (∃ r', s.readKeyed v (keyed entries) seen r = .ok r') ↔ Completes s seen entries := by
  induction entries generalizing seen r with
  | nil => exact readKeyed_nil_succeeds_iff hseen r
  | cons e rest ih =>
      obtain ⟨name, w⟩ := e
      simp only [readKeyed_cons_eq_ok_iff hs]
      by_cases hname : name ∈ s.names
      · obtain ⟨f, hf, rfl⟩ := List.mem_map.mp hname
        rw [completes_cons_field_iff hs hf, ← f.read_succeeds_iff w r]
        constructor
        · rintro ⟨r', ⟨g, hg, hsame, hnew, r₁, hread, hrest⟩ | ⟨hunknown, _⟩⟩
          · rw [List.inj_on_of_nodup_map hs.names_nodup hg hf hsame] at hread
            exact ⟨hnew, ⟨r₁, hread⟩, (ih (List.nodup_cons.mpr ⟨hnew, hseen⟩) r₁).mp ⟨r', hrest⟩⟩
          · exact absurd hname hunknown
        · rintro ⟨hnew, ⟨r₁, hread⟩, hcompletes⟩
          obtain ⟨r', hrest⟩ := (ih (List.nodup_cons.mpr ⟨hnew, hseen⟩) r₁).mpr hcompletes
          exact ⟨r', .inl ⟨f, hf, rfl, hnew, r₁, hread, hrest⟩⟩
      · rw [completes_cons_other_iff hname, ← ih hseen r]
        constructor
        · rintro ⟨r', ⟨f, hf, hsame, _⟩ | ⟨_, hlenient, hrest⟩⟩
          · exact absurd hsame (name_ne_of_not_mem hname hf)
          · exact ⟨hlenient, r', hrest⟩
        · rintro ⟨hlenient, r', hrest⟩
          exact ⟨r', .inr ⟨hname, hlenient, hrest⟩⟩

theorem readListed_succeeds_iff {v : Value} {fields : List (Field Value R)} {items : List Value}
    (count : Nat) (r : R) :
    (∃ r', s.readListed v fields items count r = .ok r') ↔
      Clause.Listed (fields.map (·.clause)) items := by
  induction fields generalizing items count r with
  | nil =>
      cases items with
      | nil => exact ⟨fun _ => .done (by simp), fun _ => ⟨r, rfl⟩⟩
      | cons item items =>
          constructor
          · rintro ⟨r', h⟩
            cases h
          · intro h
            cases h
  | cons f fields ih =>
      cases items with
      | nil =>
          rw [readListed, Clause.listed_nil_iff, List.map_cons, List.forall_mem_cons]
          cases hrequired : f.required with
          | true => simp [Field.clause, hrequired]
          | false =>
              rw [if_neg (by simp), ih, Clause.listed_nil_iff]
              simp [Field.clause, hrequired]
      | cons item items =>
          rw [List.map_cons, Clause.listed_cons_iff, ← f.read_succeeds_iff item r]
          simp only [readListed, eq_ok_of_bind]
          constructor
          · rintro ⟨r', r₁, hread, h⟩
            exact ⟨⟨r₁, hread⟩, (ih _ r₁).mp ⟨r', h⟩⟩
          · rintro ⟨⟨r₁, hread⟩, hlisted⟩
            obtain ⟨r', h⟩ := (ih (count + 1) r₁).mpr hlisted
            exact ⟨r', r₁, hread, h⟩

/-- The reader of a schema takes exactly the records with its fields. -/
theorem read_succeeds_iff (hs : s.Regular) {clauses : List Clause} (hclauses : s.clauses = clauses)
    {v : Value} : (∃ r, s.read v = .ok r) ↔ IsRecord clauses s.strict v := by
  subst hclauses
  cases v with
  | object entries =>
      have hread : s.read (.object entries) =
          s.readKeyed (.object entries) (keyed entries) [] s.blank := rfl
      rw [hread, readKeyed_succeeds_iff hs List.nodup_nil]
      constructor
      · rintro ⟨hknown, honce, hpresent, hvalues⟩
        refine ⟨?_, ?_, ?_, ?_⟩
        · rwa [names_clauses]
        · rwa [names_clauses]
        · refine List.forall_mem_map.mpr fun f hf hrequired => ?_
          exact (hpresent f hf hrequired).resolve_left List.not_mem_nil
        · exact List.forall_mem_map.mpr hvalues
      · rintro ⟨hknown, honce, hpresent, hvalues⟩
        rw [names_clauses] at hknown honce
        refine ⟨hknown, honce, fun f hf hrequired => .inr ?_, List.forall_mem_map.mp hvalues⟩
        exact hpresent (f.clause) (List.mem_map_of_mem hf) hrequired
  | array items =>
      have hread : s.read (.array items) =
          s.readListed (.array items) s.fields items 0 s.blank := rfl
      rw [hread]
      exact readListed_succeeds_iff 0 s.blank
  | null => exact iff_of_false (by rintro ⟨r, h⟩; cases h) id
  | bool b => exact iff_of_false (by rintro ⟨r, h⟩; cases h) id
  | number n => exact iff_of_false (by rintro ⟨r, h⟩; cases h) id
  | string t => exact iff_of_false (by rintro ⟨r, h⟩; cases h) id

/-- A field that has been read is not read again. -/
theorem lookup_eq_none_of_seen (hs : s.Regular) {name : String} (hname : name ∈ s.names) {v : Value}
    {entries : List (String × Value)} {seen : List String} (hseen : name ∈ seen) {r r' : R}
    (h : s.readKeyed v (keyed entries) seen r = .ok r') : entries.lookup name = none := by
  induction entries generalizing seen r with
  | nil => rfl
  | cons e rest ih =>
      obtain ⟨other, w⟩ := e
      rcases (readKeyed_cons_eq_ok_iff hs).mp h with
        ⟨f, _, _, hnew, r₁, _, hrest⟩ | ⟨hunknown, _, hrest⟩
      · have hne : name ≠ other := by
          rintro rfl
          exact hnew hseen
        rw [List.lookup_cons, beq_false_of_ne hne]
        exact ih (List.mem_cons_of_mem _ hseen) hrest
      · have hne : name ≠ other := by
          rintro rfl
          exact hunknown hname
        rw [List.lookup_cons, beq_false_of_ne hne]
        exact ih hseen hrest

theorem given_of_readKeyed (hs : s.Regular) {f : Field Value R} (hf : f ∈ s.fields) {v : Value}
    {entries : List (String × Value)} {seen : List String} {r r' : R}
    (h : s.readKeyed v (keyed entries) seen r = .ok r') :
    Given (fun w a => f.readValue w = .ok a) (some (f.get r)) (entries.lookup f.name)
      (f.get r') := by
  have hname : f.name ∈ s.names := List.mem_map_of_mem hf
  induction entries generalizing seen r with
  | nil =>
      rw [keyed, List.map_nil, readKeyed] at h
      split at h
      · cases h
      · cases h
        rfl
  | cons e rest ih =>
      obtain ⟨other, w⟩ := e
      rcases (readKeyed_cons_eq_ok_iff hs).mp h with
        ⟨g, hg, rfl, hnew, r₁, hread, hrest⟩ | ⟨hunknown, _, hrest⟩
      · obtain ⟨a, ha, rfl⟩ := Field.read_eq_ok_iff.mp hread
        by_cases hsame : g.name = f.name
        · -- This is the entry of the field, so no later entry is.
          obtain rfl := List.inj_on_of_nodup_map hs.names_nodup hg hf hsame
          have hlater := lookup_eq_none_of_seen hs hname (List.mem_cons_self ..) hrest
          have hkept := ih hrest
          rw [hlater] at hkept
          have hget : g.get (g.put a r) = g.get r' := Option.some.inj hkept
          rw [List.lookup_cons, beq_self_eq_true, ← hget, g.get_put]
          exact ha
        · rw [List.lookup_cons, beq_false_of_ne (Ne.symm hsame), ← hs.apart f hf g hg hsame a r]
          exact ih hrest
      · have hne : f.name ≠ other := by
          rintro rfl
          exact hunknown hname
        rw [List.lookup_cons, beq_false_of_ne hne]
        exact ih hrest

theorem lookup_zip_eq_none {names : List String} {name : String} (hname : name ∉ names)
    (items : List Value) : (names.zip items).lookup name = none := by
  rw [lookup_eq_none_iff_not_mem]
  intro hmem
  obtain ⟨e, he, rfl⟩ := List.mem_map.mp hmem
  exact hname (List.of_mem_zip he).1

theorem given_of_readListed (hs : s.Regular) {f : Field Value R} (hf : f ∈ s.fields) {v : Value}
    {fields : List (Field Value R)} (hfields : ∀ g ∈ fields, g ∈ s.fields)
    (hnodup : (fields.map (·.name)).Nodup) {items : List Value} {count : Nat} {r r' : R}
    (h : s.readListed v fields items count r = .ok r') :
    Given (fun w a => f.readValue w = .ok a) (some (f.get r))
      (((fields.map (·.name)).zip items).lookup f.name) (f.get r') := by
  induction fields generalizing items count r with
  | nil =>
      cases items with
      | nil =>
          cases h
          rfl
      | cons item items => cases h
  | cons g fields ih =>
      have hrest (g' : Field Value R) (hg' : g' ∈ fields) : g' ∈ s.fields :=
        hfields g' (List.mem_cons_of_mem _ hg')
      obtain ⟨hfirst, hnodup⟩ := List.nodup_cons.mp hnodup
      cases items with
      | nil =>
          rw [readListed] at h
          split at h
          · cases h
          · simpa using ih hrest hnodup h
      | cons item items =>
          obtain ⟨r₁, hread, h⟩ := eq_ok_of_bind.mp h
          obtain ⟨a, ha, rfl⟩ := Field.read_eq_ok_iff.mp hread
          have hg := hfields g (by simp)
          rw [List.map_cons, List.zip_cons_cons]
          by_cases hsame : g.name = f.name
          · obtain rfl := List.inj_on_of_nodup_map hs.names_nodup hg hf hsame
            have hkept := ih hrest hnodup h
            rw [lookup_zip_eq_none hfirst] at hkept
            have hget : g.get (g.put a r) = g.get r' := Option.some.inj hkept
            rw [List.lookup_cons, beq_self_eq_true, ← hget, g.get_put]
            exact ha
          · rw [List.lookup_cons, beq_false_of_ne (Ne.symm hsame), ← hs.apart f hf g hg hsame a r]
            exact ih hrest hnodup h

/-- A value gives every component of the record that is read from it. -/
theorem gives_of_read (hs : s.Regular) {f : Field Value R} (hf : f ∈ s.fields) {v : Value} {r : R}
    (h : s.read v = .ok r) : f.Gives s.clauses s.blank v r := by
  have hgiven : Given (fun w a => f.readValue w = .ok a) (some (f.get s.blank))
      (Clause.part? s.clauses f.name v) (f.get r) := by
    cases v with
    | object entries => exact given_of_readKeyed hs hf (v := .object entries) h
    | array items =>
        rw [Clause.part?, names_clauses]
        exact given_of_readListed hs hf (v := .array items) (fun g hg => hg) hs.names_nodup h
    | null => cases h
    | bool b => cases h
    | number n => cases h
    | string t => cases h
  unfold Field.Gives
  cases hpart : Clause.part? s.clauses f.name v with
  | some w =>
      rw [hpart] at hgiven
      exact hgiven
  | none =>
      have hrecord := (read_succeeds_iff hs rfl).mp ⟨r, h⟩
      have hneeded : f.required = false :=
        hrecord.needed_eq_false (c := f.clause) (List.mem_map_of_mem hf) hpart
      rw [hneeded]
      rw [hpart] at hgiven
      exact hgiven

/-- The reader of a schema takes the records with its fields, and of such a value makes the one
record whose components the value gives. -/
theorem read_eq_ok_iff (hs : s.Regular) {clauses : List Clause} (hclauses : s.clauses = clauses)
    {v : Value} {r : R} :
    s.read v = .ok r ↔
      IsRecord clauses s.strict v ∧ ∀ f ∈ s.fields, f.Gives clauses s.blank v r := by
  subst hclauses
  constructor
  · intro h
    exact ⟨(read_succeeds_iff hs rfl).mp ⟨r, h⟩, fun f hf => gives_of_read hs hf h⟩
  · rintro ⟨hrecord, hgives⟩
    obtain ⟨r', hr'⟩ := (read_succeeds_iff hs rfl).mpr hrecord
    have hsame := hs.ext r r' fun f hf => (hgives f hf).get_eq (gives_of_read hs hf hr')
    rw [hr', hsame]

end Schema

end Decode

end BroadcastFilter
