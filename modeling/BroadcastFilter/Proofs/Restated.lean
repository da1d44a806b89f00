import BroadcastFilter.Proofs.Grammar
import Mathlib.Logic.Relation

/-!
Documents that say the same of a lenient record, one whose fields may all be left out and beside
whose fields other names may stand. Such a document may be edited: entries under other names come
and go, the order of the entries changes, a default is written out, the items of an array get the
names of their places, and inside a part there may be edits again. An edit neither makes a record
of a document nor keeps it from being one, and every part stays what it was, or is written out, or
is edited in turn; so a reader of such records takes both documents and gives one result for them.
-/

namespace BroadcastFilter

open Decode

namespace Json

/-- One edit of a document. The fields have the given default values, in the order of the fields,
and the part of a field may be replaced as the relation for its name says. -/
inductive Edited (defaults : List (String × Value)) (inner : String → Value → Value → Prop) :
    Value → Value → Prop where
  | extra {before after : List (String × Value)} {name : String} {v : Value}
      (hname : name ∉ defaults.map (·.1)) :
      Edited defaults inner (.object (before ++ after)) (.object (before ++ (name, v) :: after))
  | reordered {entries entries' : List (String × Value)} (hperm : entries.Perm entries') :
      Edited defaults inner (.object entries) (.object entries')
  | supplied {entries : List (String × Value)} {name : String} {d : Value}
      (hdefault : (name, d) ∈ defaults) (habsent : name ∉ entries.map (·.1)) :
      Edited defaults inner (.object entries) (.object (entries ++ [(name, d)]))
  | within {before after : List (String × Value)} {name : String} {v w : Value}
      (hinner : inner name v w) :
      Edited defaults inner (.object (before ++ (name, v) :: after))
        (.object (before ++ (name, w) :: after))
  | named {items : List Value} (hlength : items.length ≤ defaults.length) :
      Edited defaults inner (.array items) (.object ((defaults.map (·.1)).zip items))

/-- The documents come from each other by edits, made or undone. -/
def Restated (defaults : List (String × Value)) (inner : String → Value → Value → Prop) :
    Value → Value → Prop :=
  Relation.EqvGen (Edited defaults inner)

/-- What an edit may do to the part of a field. -/
inductive PartEdited (defaults : List (String × Value)) (inner : String → Value → Value → Prop)
    (name : String) : Option Value → Option Value → Prop where
  | kept (part : Option Value) : PartEdited defaults inner name part part
  | supplied {d : Value} (hdefault : (name, d) ∈ defaults) :
      PartEdited defaults inner name none (some d)
  | within {v w : Value} (hinner : inner name v w) :
      PartEdited defaults inner name (some v) (some w)

/-- The defaults are a record with the fields, which may all be left out, and the edits inside a
part do not change whether it fits. -/
structure Suits (clauses : List Clause) (defaults : List (String × Value))
    (inner : String → Value → Value → Prop) : Prop where
  names_eq : defaults.map (·.1) = clauses.map (·.name)
  names_nodup : (clauses.map (·.name)).Nodup
  spare : ∀ c ∈ clauses, c.needed = false
  blank : Clause.Keyed clauses false defaults
  inner_fits : ∀ c ∈ clauses, ∀ v w, inner c.name v w → (c.fits v ↔ c.fits w)

/-- A lenient record has no field twice, and what stands under a field fits. -/
theorem keyed_lenient_iff {clauses : List Clause} (hspare : ∀ c ∈ clauses, c.needed = false)
    {entries : List (String × Value)} :
    Clause.Keyed clauses false entries ↔
      ((entries.map (·.1)).filter (· ∈ clauses.map (·.name))).Nodup ∧
        ∀ c ∈ clauses, ∀ v, (c.name, v) ∈ entries → c.fits v := by
  refine ⟨fun h => ⟨h.once, h.values⟩, fun ⟨honce, hvalues⟩ => ⟨by simp, honce, ?_, hvalues⟩⟩
  intro c hc hneeded
  exact absurd hneeded (by simp [hspare c hc])

/-- The same for an object in which no key stands twice: whatever stands under a field fits. -/
theorem isRecord_object_iff {clauses : List Clause} (hspare : ∀ c ∈ clauses, c.needed = false)
    {entries : List (String × Value)} (hnodup : (entries.map (·.1)).Nodup) :
    IsRecord clauses false (.object entries) ↔
      ∀ c ∈ clauses, ∀ v, (c.name, v) ∈ entries → c.fits v :=
  (keyed_lenient_iff hspare).trans (and_iff_right (hnodup.filter _))

/-- The items of an array are a lenient record if there are no more of them than fields and each
fits at its place. -/
theorem isRecord_array_iff {clauses : List Clause} (hspare : ∀ c ∈ clauses, c.needed = false)
    {items : List Value} :
    IsRecord clauses false (.array items) ↔
      items.length ≤ clauses.length ∧ ∀ p ∈ clauses.zip items, p.1.fits p.2 := by
  change Clause.Listed clauses items ↔ _
  induction clauses generalizing items with
  | nil =>
      cases items with
      | nil => simp [Clause.listed_nil_iff]
      | cons v items => exact iff_of_false (fun h => nomatch h) (by simp)
  | cons c clauses ih =>
      cases items with
      | nil => simpa [Clause.listed_nil_iff] using hspare
      | cons v items =>
          rw [Clause.listed_cons_iff, ih fun c' hc' => hspare c' (List.mem_cons_of_mem _ hc')]
          simp only [List.zip_cons_cons, List.forall_mem_cons, List.length_cons,
            Nat.add_le_add_iff_right]
          tauto

theorem keys_zip (names : List String) (items : List Value) :
    (names.zip items).map (·.1) = names.take items.length := by
  induction names generalizing items with
  | nil => simp
  | cons name names ih => cases items <;> simp [ih]

/-- An array says of a lenient record what the object says in which its items have the names of
their places. -/
theorem isRecord_zip_iff {clauses : List Clause} (hnodup : (clauses.map (·.name)).Nodup)
    (hspare : ∀ c ∈ clauses, c.needed = false) {items : List Value}
    (hlength : items.length ≤ clauses.length) :
    IsRecord clauses false (.array items) ↔
      IsRecord clauses false (.object ((clauses.map (·.name)).zip items)) := by
  have hkeys : (((clauses.map (·.name)).zip items).map (·.1)).Nodup := by
    rw [keys_zip]
    exact hnodup.sublist (List.take_sublist ..)
  rw [isRecord_array_iff hspare, isRecord_object_iff hspare hkeys, and_iff_right hlength]
  have hmem (c : Clause) (hc : c ∈ clauses) (v : Value) :
      (c.name, v) ∈ (clauses.map (·.name)).zip items ↔ (c, v) ∈ clauses.zip items := by
    rw [List.zip_map_left, List.mem_map]
    constructor
    · rintro ⟨⟨c', v'⟩, hp, heq⟩
      obtain ⟨hsame, rfl⟩ := Prod.mk.inj heq
      rwa [List.inj_on_of_nodup_map hnodup hc (List.of_mem_zip hp).1 hsame.symm]
    · intro hp
      exact ⟨(c, v), hp, rfl⟩
  constructor
  · intro h c hc v hv
    exact h (c, v) ((hmem c hc v).mp hv)
  · rintro h ⟨c, v⟩ hp
    exact h c (List.of_mem_zip hp).1 v ((hmem c (List.of_mem_zip hp).1 v).mpr hp)

/-- Where a name has one value at most, the order of the entries does not matter to it. -/
theorem lookup_eq_of_perm {B : Type} {entries entries' : List (String × B)}
    (hperm : entries.Perm entries') {name : String}
    (hunique : ∀ v w, (name, v) ∈ entries → (name, w) ∈ entries → v = w) :
    entries.lookup name = entries'.lookup name := by
  cases hthere : entries'.lookup name with
  | none =>
      rw [lookup_eq_none_iff_not_mem] at hthere ⊢
      rwa [(hperm.map _).mem_iff]
  | some w =>
      have hw := hperm.mem_iff.mpr (mem_of_lookup_eq_some hthere)
      cases hhere : entries.lookup name with
      | none => exact absurd (List.mem_map_of_mem hw) (lookup_eq_none_iff_not_mem.mp hhere)
      | some v => rw [hunique v w (mem_of_lookup_eq_some hhere) hw]

theorem Clause.Keyed.value_unique {clauses : List Clause} {strict : Bool}
    {entries : List (String × Value)} (h : Clause.Keyed clauses strict entries) {name : String}
    (hname : name ∈ clauses.map (·.name)) {v w : Value} (hv : (name, v) ∈ entries)
    (hw : (name, w) ∈ entries) : v = w := by
  have honce := h.once
  rw [List.filter_map] at honce
  have hpair := List.inj_on_of_nodup_map honce (x := (name, v)) (y := (name, w))
    (by simpa [hv] using hname) (by simpa [hw] using hname) rfl
  exact (Prod.mk.inj hpair).2

section Edits

variable {clauses : List Clause} {defaults : List (String × Value)}
  {inner : String → Value → Value → Prop}

theorem Suits.length_eq (hs : Suits clauses defaults inner) : defaults.length = clauses.length := by
  rw [← List.length_map (·.1), hs.names_eq, List.length_map]

/-- An edit neither makes a record of a document nor keeps it from being one. -/
theorem Edited.isRecord_iff (hs : Suits clauses defaults inner) {v w : Value}
    (h : Edited defaults inner v w) :
    IsRecord clauses false v ↔ IsRecord clauses false w := by
  cases h with
  | @extra before after name u hname =>
      rw [hs.names_eq] at hname
      have hother (c : Clause) (hc : c ∈ clauses) : c.name ≠ name := fun heq =>
        hname (heq ▸ List.mem_map_of_mem hc)
      simp only [IsRecord, keyed_lenient_iff hs.spare, List.map_append, List.map_cons,
        List.filter_append, List.filter_cons_of_neg (p := (· ∈ clauses.map (·.name)))
          (by simpa using hname)]
      refine and_congr_right fun _ => forall₂_congr fun c hc => forall_congr' fun u' => ?_
      simp [hother c hc]
  | @reordered entries entries' hperm =>
      simp only [IsRecord, keyed_lenient_iff hs.spare, hperm.mem_iff,
        ((hperm.map (·.1)).filter _).nodup_iff]
  | @supplied entries name d hdefault habsent =>
      have hknown : name ∈ clauses.map (·.name) := hs.names_eq ▸ List.mem_map_of_mem hdefault
      have hnew : name ∉ (entries.map (·.1)).filter (· ∈ clauses.map (·.name)) := fun hmem =>
        habsent (List.mem_filter.mp hmem).1
      have hfits (c : Clause) (hc : c ∈ clauses) (hname : c.name = name) : c.fits d :=
        hs.blank.values c hc d (hname ▸ hdefault)
      simp only [IsRecord, keyed_lenient_iff hs.spare, List.map_append, List.map_singleton,
        List.filter_append, List.filter_singleton, hknown, decide_true, cond_true]
      refine and_congr ?_ (forall₂_congr fun c hc => ?_)
      · rw [← List.concat_eq_append, List.nodup_concat, and_iff_right hnew]
      · simp only [List.mem_append, List.mem_singleton, Prod.mk.injEq, or_imp, forall_and]
        exact (and_iff_left fun v ⟨hname, hv⟩ => hv ▸ hfits c hc hname).symm
  | @within before after name u u' hinner =>
      simp only [IsRecord, keyed_lenient_iff hs.spare, List.map_append, List.map_cons]
      refine and_congr_right fun _ => forall₂_congr fun c hc => ?_
      simp only [List.mem_append, List.mem_cons, Prod.mk.injEq, or_imp, forall_and, and_imp]
      refine and_congr_right fun _ => and_congr_left fun _ => ?_
      constructor
      · rintro h v hname rfl
        exact (hs.inner_fits c hc u v (hname ▸ hinner)).mp (h u hname rfl)
      · rintro h v hname rfl
        exact (hs.inner_fits c hc v u' (hname ▸ hinner)).mpr (h u' hname rfl)
  | named hlength =>
      rw [hs.names_eq]
      exact isRecord_zip_iff hs.names_nodup hs.spare (hs.length_eq ▸ hlength)

/-- An edit keeps the part of a field, writes it out, or edits it. -/
theorem Edited.part (hs : Suits clauses defaults inner) {v w : Value}
    (h : Edited defaults inner v w) (hrecord : IsRecord clauses false v) {name : String}
    (hname : name ∈ clauses.map (·.name)) :
    PartEdited defaults inner name (Clause.part? clauses name v) (Clause.part? clauses name w) := by
  cases h with
  | @extra before after other u hother =>
      have hne : name ≠ other := by
        rintro rfl
        exact hother (hs.names_eq ▸ hname)
      simp only [Clause.part?, List.lookup_append, List.lookup_cons, beq_false_of_ne hne]
      exact .kept _
  | reordered hperm =>
      have hsame := lookup_eq_of_perm hperm fun v w hv hw => hrecord.value_unique hname hv hw
      simp only [Clause.part?, hsame]
      exact .kept _
  | @supplied entries other d hdefault habsent =>
      simp only [Clause.part?, List.lookup_append]
      by_cases hsame : name = other
      · subst hsame
        rw [lookup_eq_none_iff_not_mem.mpr habsent, List.lookup_cons_self, Option.none_or]
        exact .supplied hdefault
      · rw [List.lookup_cons, beq_false_of_ne hsame, List.lookup_nil, Option.or_none]
        exact .kept _
  | @within before after other u u' hinner =>
      simp only [Clause.part?, List.lookup_append, List.lookup_cons]
      cases before.lookup name with
      | some u₀ => exact .kept _
      | none =>
          by_cases hsame : name = other
          · subst hsame
            simp only [beq_self_eq_true, Option.none_or]
            exact .within hinner
          · simp only [beq_false_of_ne hsame]
            exact .kept _
  | named hlength =>
      simp only [Clause.part?, hs.names_eq]
      exact .kept _

/-- An edit leaves the component of a field as it is, if the defaults give that of the blank record
and an edit inside the field's part leaves to its reader what the part tells. -/
theorem Edited.get_eq (hs : Suits clauses defaults inner) {v w : Value}
    (h : Edited defaults inner v w) (hrecord : IsRecord clauses false v) {R : Type}
    {f : Field Value R} (hf : f.clause ∈ clauses) {blank a b : R}
    (hblank : f.Gives clauses blank (.object defaults) blank)
    (hinner : ∀ {v w}, inner f.name v w → ∀ a, f.readValue v = .ok a ↔ f.readValue w = .ok a)
    (ha : f.Gives clauses blank v a) (hb : f.Gives clauses blank w b) : f.get a = f.get b := by
  have hpart : PartEdited defaults inner f.name (Clause.part? clauses f.name v)
      (Clause.part? clauses f.name w) := h.part hs hrecord (List.mem_map_of_mem hf)
  have hspare : f.required = false := hs.spare _ hf
  simp only [Field.Gives, hspare] at hblank ha hb
  generalize Clause.part? clauses f.name v = part at ha hpart
  generalize Clause.part? clauses f.name w = part' at hb hpart
  cases hpart with
  | kept _ => exact ha.unique hb
  | @supplied d hdefault =>
      have hd := lookup_eq_some_of_mem (hs.names_eq ▸ hs.names_nodup) hdefault
      have hget : f.get blank = f.get a := Option.some.inj ha
      rw [Clause.part?, hd] at hblank
      rw [← hget]
      exact Except.ok.inj (hblank.symm.trans hb)
  | within hedit =>
      exact Except.ok.inj (((hinner hedit _).mp ha).symm.trans hb)

/-- If edits inside a part leave to the reader of its field what the part tells, then restatements
leave to the reader of a lenient record what the document tells. -/
theorem Restated.read_eq_ok_iff {R : Type} {s : Schema Value R} (hs : s.Regular)
    (hclauses : s.clauses = clauses) (hlenient : s.strict = false)
    (hsuits : Suits clauses defaults inner) (hblank : s.read (.object defaults) = .ok s.blank)
    (hinner : ∀ f ∈ s.fields, ∀ {v w}, inner f.name v w →
      ∀ a, f.readValue v = .ok a ↔ f.readValue w = .ok a)
    {v w : Value} (h : Restated defaults inner v w) (r : R) :
    s.read v = .ok r ↔ s.read w = .ok r := by
  have hread {v : Value} {r : R} := Schema.read_eq_ok_iff hs hclauses (v := v) (r := r)
  have hsucceeds {v : Value} := Schema.read_succeeds_iff hs hclauses (v := v)
  rw [hlenient] at hread hsucceeds
  induction h with
  | rel v w hedit =>
      have hrecord := hedit.isRecord_iff hsuits
      have hsame {a b : R} (ha : s.read v = .ok a) (hb : s.read w = .ok b) : a = b := by
        refine hs.ext a b fun f hf => ?_
        have hclause : f.clause ∈ clauses := hclauses ▸ List.mem_map_of_mem hf
        exact hedit.get_eq hsuits (hread.mp ha).1 hclause ((hread.mp hblank).2 f hf) (hinner f hf)
          ((hread.mp ha).2 f hf) ((hread.mp hb).2 f hf)
      constructor
      · intro hv
        obtain ⟨b, hw⟩ := hsucceeds.mpr (hrecord.mp (hsucceeds.mp ⟨r, hv⟩))
        rw [hw, hsame hv hw]
      · intro hw
        obtain ⟨b, hv⟩ := hsucceeds.mpr (hrecord.mpr (hsucceeds.mp ⟨r, hw⟩))
        rw [hv, hsame hv hw]
  | refl _ => exact Iff.rfl
  | symm _ _ _ ih => exact ih.symm
  | trans _ _ _ _ _ ih₁ ih₂ => exact ih₁.trans ih₂

/-- The document with every field written out: a field it leaves out has its default, and the part
of a field that is there is changed as `inside` says for its name. An array with more items than
there are fields is left as it is. -/
def completed (defaults : List (String × Value)) (inside : String → Value → Value) : Value → Value
  | .object entries =>
    .object (entries.map (fun e => (e.1, inside e.1 e.2)) ++
      defaults.filter fun d => d.1 ∉ entries.map (·.1))
  | .array items =>
    if items.length ≤ defaults.length then
      .array (List.zipWith inside (defaults.map (·.1)) items ++
        (defaults.drop items.length).map (·.2))
    else .array items
  | v => v

theorem lookup_map_inside (inside : String → Value → Value) (entries : List (String × Value))
    (name : String) :
    (entries.map fun e => (e.1, inside e.1 e.2)).lookup name =
      (entries.lookup name).map (inside name) := by
  induction entries with
  | nil => rfl
  | cons e entries ih =>
      rw [List.map_cons, List.lookup_cons, List.lookup_cons, ih]
      cases hname : name == e.1 with
      | true => rw [← eq_of_beq hname]; rfl
      | false => rfl

theorem lookup_filter_names {B : Type} (keeps : String → Bool) (entries : List (String × B))
    {name : String} (hkeeps : keeps name = true) :
    (entries.filter fun e => keeps e.1).lookup name = entries.lookup name := by
  induction entries with
  | nil => rfl
  | cons e entries ih =>
      by_cases hname : name = e.1
      · rw [List.filter_cons_of_pos (hname ▸ hkeeps), List.lookup_cons, List.lookup_cons, hname,
          beq_self_eq_true]
      · rw [List.lookup_cons, beq_false_of_ne hname, List.filter_cons]
        split
        · rw [List.lookup_cons, beq_false_of_ne hname, ih]
        · exact ih

/-- The items of a completed array, with the names of their places, are the named items it had and
after them the remaining defaults. -/
theorem zip_completed (inside : String → Value → Value) {items : List Value}
    (hlength : items.length ≤ defaults.length) :
    (defaults.map (·.1)).zip (List.zipWith inside (defaults.map (·.1)) items ++
        (defaults.drop items.length).map (·.2)) =
      ((defaults.map (·.1)).zip items).map (fun e => (e.1, inside e.1 e.2)) ++
        defaults.drop items.length := by
  induction defaults generalizing items with
  | nil => simp
  | cons d defaults ih =>
      cases items with
      | nil =>
          simp only [List.zipWith_nil_right, List.zip_nil_right, List.map_nil, List.nil_append,
            List.length_nil, List.drop_zero]
          exact (List.zip_of_prod rfl rfl).symm
      | cons v items =>
          have hrest := ih (Nat.le_of_succ_le_succ hlength)
          simp only [List.map_cons, List.zipWith_cons_cons, List.length_cons, List.drop_succ_cons,
            List.cons_append, List.zip_cons_cons, hrest]

/-- In the completion of a record the part of a field is the changed one of the record, or the
default. -/
theorem part?_completed (hs : Suits clauses defaults inner) (inside : String → Value → Value)
    {v : Value} (h : IsRecord clauses false v) (name : String) :
    Clause.part? clauses name (completed defaults inside v) =
      ((Clause.part? clauses name v).map (inside name)).or (defaults.lookup name) := by
  cases v with
  | object entries =>
      simp only [completed, Clause.part?, List.lookup_append, lookup_map_inside]
      cases hpart : entries.lookup name with
      | some v => rfl
      | none =>
          have habsent := lookup_eq_none_iff_not_mem.mp hpart
          rw [lookup_filter_names (fun n => n ∉ entries.map (·.1)) defaults
            (by simpa using habsent)]
  | array items =>
      have hlength := hs.length_eq ▸ ((isRecord_array_iff hs.spare).mp h).1
      simp only [completed, if_pos hlength, Clause.part?, ← hs.names_eq,
        zip_completed inside hlength, List.lookup_append, lookup_map_inside]
      cases hpart : ((defaults.map (·.1)).zip items).lookup name with
      | some v => rfl
      | none =>
          have habsent := lookup_eq_none_iff_not_mem.mp hpart
          rw [keys_zip, ← List.map_take] at habsent
          conv_rhs => rw [← List.take_append_drop items.length defaults]
          rw [List.lookup_append, lookup_eq_none_iff_not_mem.mpr habsent]
          rfl
  | null => exact h.elim
  | bool b => exact h.elim
  | number n => exact h.elim
  | string t => exact h.elim

/-- Defaults may be written out one after the other. -/
theorem Restated.supply {added : List (String × Value)} (hadded : ∀ d ∈ added, d ∈ defaults)
    (hnodup : (added.map (·.1)).Nodup) {entries : List (String × Value)}
    (habsent : ∀ d ∈ added, d.1 ∉ entries.map (·.1)) :
    Restated defaults inner (.object entries) (.object (entries ++ added)) := by
  induction added generalizing entries with
  | nil =>
      rw [List.append_nil]
      exact .refl _
  | cons d added ih =>
      obtain ⟨hdefault, hadded⟩ := List.forall_mem_cons.mp hadded
      obtain ⟨hfirst, habsent⟩ := List.forall_mem_cons.mp habsent
      obtain ⟨hnew, hnodup⟩ := List.nodup_cons.mp hnodup
      have hstep : Restated defaults inner (.object entries) (.object (entries ++ [d])) :=
        .rel _ _ (.supplied hdefault hfirst)
      have hothers : ∀ other ∈ added, other.1 ∉ (entries ++ [d]).map (·.1) := by
        intro other hother
        rw [List.map_append, List.mem_append, not_or, List.map_singleton, List.mem_singleton]
        exact ⟨habsent other hother, fun heq => hnew (List.mem_map.mpr ⟨other, hother, heq⟩)⟩
      have hrest := ih hadded hnodup hothers
      rw [List.append_assoc] at hrest
      exact .trans _ _ _ hstep hrest

/-- The parts of an object may be edited one after the other. -/
theorem Restated.inside {inside : String → Value → Value}
    (hinside : ∀ name v, inside name v = v ∨ inner name v (inside name v))
    (before entries : List (String × Value)) :
    Restated defaults inner (.object (before ++ entries))
      (.object (before ++ entries.map fun e => (e.1, inside e.1 e.2))) := by
  induction entries generalizing before with
  | nil => exact .refl _
  | cons e entries ih =>
      obtain ⟨name, v⟩ := e
      have hstep : Restated defaults inner (.object (before ++ (name, v) :: entries))
          (.object (before ++ (name, inside name v) :: entries)) := by
        rcases hinside name v with hsame | hinner
        · rw [hsame]
          exact .refl _
        · exact .rel _ _ (.within hinner)
      have hrest := ih (before ++ [(name, inside name v)])
      rw [List.append_assoc, List.append_assoc] at hrest
      exact .trans _ _ _ hstep hrest

theorem Restated.filled {inside : String → Value → Value}
    (hinside : ∀ name v, inside name v = v ∨ inner name v (inside name v))
    {entries added : List (String × Value)} (hadded : ∀ d ∈ added, d ∈ defaults)
    (hnodup : (added.map (·.1)).Nodup) (habsent : ∀ d ∈ added, d.1 ∉ entries.map (·.1)) :
    Restated defaults inner (.object entries)
      (.object (entries.map (fun e => (e.1, inside e.1 e.2)) ++ added)) := by
  refine .trans _ _ _ (Restated.inside hinside [] entries) (Restated.supply hadded hnodup ?_)
  intro d hd
  simpa [Function.comp_def] using habsent d hd

/-- A document and its completion come from each other by edits. -/
theorem restated_completed (hnodup : (defaults.map (·.1)).Nodup)
    {inside : String → Value → Value}
    (hinside : ∀ name v, inside name v = v ∨ inner name v (inside name v)) (v : Value) :
    Restated defaults inner v (completed defaults inside v) := by
  cases v with
  | object entries =>
      refine Restated.filled hinside ?_ (hnodup.sublist (List.filter_sublist.map _)) ?_
      · intro d hd
        exact (List.mem_filter.mp hd).1
      · intro d hd
        simpa using (List.mem_filter.mp hd).2
  | array items =>
      rw [completed]
      split
      next hlength =>
        have hobjects : Restated defaults inner (.object ((defaults.map (·.1)).zip items))
            (.object (((defaults.map (·.1)).zip items).map (fun e => (e.1, inside e.1 e.2)) ++
              defaults.drop items.length)) := by
          refine Restated.filled hinside (fun d hd => List.mem_of_mem_drop hd)
            (hnodup.sublist ((List.drop_sublist ..).map _)) fun d hd => ?_
          rw [keys_zip]
          intro hmem
          exact List.disjoint_take_drop hnodup (Nat.le_refl _) hmem
            (List.map_drop ▸ List.mem_map_of_mem hd)
        rw [← zip_completed inside hlength] at hobjects
        have hlength' : (List.zipWith inside (defaults.map (·.1)) items ++
            (defaults.drop items.length).map (·.2)).length ≤ defaults.length := by
          simp only [List.length_append, List.length_zipWith, List.length_map, List.length_drop]
          omega
        have hnamed : Restated defaults inner (.array items) _ := .rel _ _ (.named hlength)
        exact .trans _ _ _ hnamed (.trans _ _ _ hobjects (.symm _ _ (.rel _ _ (.named hlength'))))
      next => exact .refl _
  | null => exact .refl _
  | bool b => exact .refl _
  | number n => exact .refl _
  | string t => exact .refl _

end Edits

end Json

end BroadcastFilter
