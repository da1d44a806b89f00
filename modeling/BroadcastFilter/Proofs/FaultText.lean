import BroadcastFilter.Proofs.Readable
import BroadcastFilter.Proofs.Refusal
import BroadcastFilter.Proofs.Verdict

/-!
What the faults of a chain print tells the faults. The entries of a chain and, within one of them,
those of its matches are set apart by the same separator and nothing closes the inner list. But each
entry says of what it is the entry, so the inner list ends where an entry of the chain begins, and
tags and actions cannot run into the next entry as long as they have no semicolon.
-/

namespace BroadcastFilter

namespace Slot

theorem find?_name (s : Slot) : all.find? (·.name == s.name) = some s := by
  cases s <;> decide

theorem name_injective : Function.Injective name := by
  intro s t h
  apply Option.some.inj
  rw [← find?_name s, ← find?_name t, h]

theorem mark_not_mem_name {mark : Char} (hmark : mark ∈ [',', ';']) (s : Slot) :
    mark ∉ s.name.toList := by
  have hmarks : mark = ',' ∨ mark = ';' := by simpa using hmark
  rcases hmarks with rfl | rfl <;> cases s <;> decide

/-- Names of slots are told from their list. -/
theorem eq_of_intercalate_names {slots others : List Slot}
    (h : ", ".intercalate (slots.map name) = ", ".intercalate (others.map name)) :
    slots = others := by
  have hread : Readable (fun s : Slot => ", ".toList ++ s.name.toList) (fun _ => True)
      (StopsAt ',') := by
    intro s t r r' _ _ hr hr' heq
    rw [List.append_assoc, List.append_assoc] at heq
    obtain ⟨hname, hrest⟩ := Readable.upTo ',' (mark_not_mem_name (by decide) s)
      (mark_not_mem_name (by decide) t) hr hr' (List.append_cancel_left heq)
    exact ⟨name_injective (String.toList_inj.mp hname), hrest⟩
  refine hread.separated_injective ?_ (stopsAt_nil _) (by decide) ?_ (fun _ _ => trivial)
    (fun _ _ => trivial) h
  · intro s r
    exact stopsAt_cons ',' _
  · intro s
    cases s <;> decide

theorem semicolon_not_mem_names (slots : List Slot) :
    ';' ∉ (", ".intercalate (slots.map name)).toList := by
  cases slots with
  | nil => decide
  | cons s rest =>
      intro hmem
      have hall := List.mem_append_right ", ".toList hmem
      rw [toList_intercalate_of_ne_nil (by simp), List.flatMap_map, List.mem_flatMap] at hall
      obtain ⟨t, _, ht⟩ := hall
      exact List.not_mem_append (by decide) (mark_not_mem_name (by decide) t) ht

end Slot

namespace Match

/-- The tag of an unknown mode has no semicolon. -/
def Fault.Legible : Fault → Prop
  | .unsupported tag => ';' ∉ tag.toList
  | .missing _ | .extra _ => True

instance : DecidablePred Fault.Legible
  | .unsupported tag => inferInstanceAs (Decidable (';' ∉ tag.toList))
  | .missing _ | .extra _ => .isTrue trivial

namespace Fault

@[simp] theorem toText_missing (s : Slot) :
    (missing s).toText = "missing parameter " ++ s.name := rfl

@[simp] theorem toText_extra (slots : List Slot) :
    (extra slots).toText =
      "extra parameter(s): " ++ ", ".intercalate (slots.map Slot.name) := rfl

@[simp] theorem toText_unsupported (tag : String) :
    (unsupported tag).toText = "unsupported mode: " ++ tag := rfl

theorem toText_injective : Function.Injective toText := by
  intro f g h
  have hchars := congrArg String.toList h
  -- The first character tells the kind, and what comes after its fixed text the rest.
  cases f with
  | missing s =>
      cases g with
      | missing t => rw [Slot.name_injective ((String.append_right_inj _).mp h)]
      | _ => simp at hchars
  | extra slots =>
      cases g with
      | extra others => rw [Slot.eq_of_intercalate_names ((String.append_right_inj _).mp h)]
      | _ => simp at hchars
  | unsupported tag =>
      cases g with
      | unsupported tag' => rw [(String.append_right_inj _).mp h]
      | _ => simp at hchars

theorem Legible.semicolon_not_mem {f : Fault} (h : f.Legible) : ';' ∉ f.toText.toList := by
  cases f with
  | missing s =>
      rw [toText_missing, String.toList_append]
      exact List.not_mem_append (by decide) (Slot.mark_not_mem_name (by decide) s)
  | extra slots =>
      rw [toText_extra, String.toList_append]
      exact List.not_mem_append (by decide) (Slot.semicolon_not_mem_names slots)
  | unsupported tag =>
      rw [toText_unsupported, String.toList_append]
      exact List.not_mem_append (by decide) h

end Fault

theorem readable_fault :
    Readable (fun f : Fault => f.toText.toList) Fault.Legible (StopsAt ';') := by
  intro f g r s hf hg hr hs heq
  obtain ⟨htext, hrest⟩ := Readable.upTo ';' hf.semicolon_not_mem hg.semicolon_not_mem hr hs heq
  exact ⟨Fault.toText_injective (String.toList_inj.mp htext), hrest⟩

end Match

section Entries

variable {A : Type} {what : String} {text : A → String} {Valid : A → Prop}
  {Follows : List Char → Prop}

/-- An entry of a list, with its place. -/
def entryText (what : String) (text : A → String) (x : Nat × A) : String :=
  "in " ++ what ++ " index " ++ toString x.1 ++ ": " ++ text x.2

theorem placedTexts_map (xs : List (Nat × A)) :
    placedTexts what (xs.map fun (index, a) => (index, text a)) =
      "; ".intercalate (xs.map (entryText what text)) := by
  rw [placedTexts, List.map_map]
  rfl

theorem toList_entryText (x : Nat × A) :
    (entryText what text x).toList =
      ("in " ++ what ++ " index " ++ toString x.1 ++ ": ").toList ++ (text x.2).toList :=
  String.toList_append

/-- What can be read back can be read back with its place before it. -/
theorem readable_entry (what : String)
    (h : Readable (fun a => (text a).toList) Valid Follows) :
    Readable (fun x => "; ".toList ++ (entryText what text x).toList) (fun x => Valid x.2)
      Follows := by
  rintro ⟨i, a⟩ ⟨j, b⟩ r s ha hb hr hs heq
  simp only [toList_entryText, List.append_assoc] at heq
  obtain ⟨rfl, htext⟩ :=
    Readable.number ':' rfl (by decide) (List.append_cancel_left heq)
  obtain ⟨rfl, hrest⟩ := h ha hb hr hs htext
  exact ⟨rfl, hrest⟩

theorem head?_entryText (x : Nat × A) (r : List Char) :
    ((entryText what text x).toList ++ r).head? = some 'i' := by
  simp [toList_entryText]

theorem entryText_ne_empty (x : Nat × A) : entryText what text x ≠ "" := by
  intro h
  have hhead : ((entryText what text x).toList ++ []).head? = some 'i' := head?_entryText x []
  rw [h] at hhead
  cases hhead

/-- A list of entries begins with an entry. -/
theorem head?_intercalate_entries {xs : List (Nat × A)} (hne : xs ≠ []) (r : List Char) :
    (("; ".intercalate (xs.map (entryText what text))).toList ++ r).head? = some 'i' := by
  cases xs with
  | nil => exact absurd rfl hne
  | cons x rest =>
      cases rest with
      | nil =>
          rw [List.map_singleton, String.intercalate_singleton]
          exact head?_entryText x r
      | cons y more =>
          rw [List.map_cons, List.map_cons, String.intercalate_cons_cons, String.toList_append,
            String.toList_append, List.append_assoc, List.append_assoc]
          exact head?_entryText x _

end Entries

/-- The text has ended or goes on with an entry of a chain. -/
def ChainEntryNext (r : List Char) : Prop := r = [] ∨ "; in chain".toList <+: r

theorem ChainEntryNext.stopsAt {r : List Char} (h : ChainEntryNext r) : StopsAt ';' r := by
  rcases h with rfl | ⟨rest, rfl⟩
  · exact stopsAt_nil _
  · exact stopsAt_cons ';' _

theorem readable_matchFaults :
    Readable (fun e : MatchFaults => e.toText.toList)
      (fun e => e.faults ≠ [] ∧ ∀ x ∈ e.faults, x.2.Legible) ChainEntryNext := by
  have hlist := (readable_entry "match" Match.readable_fault).separated ChainEntryNext ?_
    (fun r hr => hr.stopsAt) ?_
  · rintro ⟨faults⟩ ⟨faults'⟩ r s he he' hr hs heq
    simp only [MatchFaults.toText, placedTexts_map] at heq
    obtain ⟨rfl, hrest⟩ := hlist he he' hr hs heq
    exact ⟨rfl, hrest⟩
  · intro x r
    exact stopsAt_cons ';' _
  -- An entry of a match begins as one of a chain does, with a separator, and differs after it.
  · rintro x r (hnil | hchain)
    · simp at hnil
    · simp [toList_entryText] at hchain

namespace Rule

/-- Texts that are not fixed have no semicolon, and there is a fault where matches are at fault. -/
def Fault.Legible : Fault → Prop
  | .invalidAction word => ';' ∉ word.toList
  | .conditions set => set.faults ≠ [] ∧ ∀ x ∈ set.faults, x.2.Legible
  | .noConditions => True

instance : DecidablePred Fault.Legible
  | .invalidAction word => inferInstanceAs (Decidable (';' ∉ word.toList))
  | .conditions set =>
    inferInstanceAs (Decidable (set.faults ≠ [] ∧ ∀ x ∈ set.faults, x.2.Legible))
  | .noConditions => .isTrue trivial

namespace Fault

@[simp] theorem toText_invalidAction (word : String) :
    (invalidAction word).toText = "unrecognized action: " ++ word := rfl

@[simp] theorem toText_conditions (set : MatchFaults) : (conditions set).toText = set.toText := rfl

@[simp] theorem toText_noConditions : noConditions.toText = "rule has no conditions" := rfl

/-- The first character of a fault. -/
def initial : Fault → Char
  | .invalidAction _ => 'u'
  | .conditions _ => 'i'
  | .noConditions => 'r'

theorem Legible.head?_toText {f : Fault} (h : f.Legible) (r : List Char) :
    (f.toText.toList ++ r).head? = some f.initial := by
  cases f with
  | invalidAction word => simp [initial]
  | conditions set =>
      rw [toText_conditions, MatchFaults.toText, placedTexts_map]
      exact head?_intercalate_entries h.1 r
  | noConditions => simp [initial]

end Fault

theorem readable_fault :
    Readable (fun f : Fault => f.toText.toList) Fault.Legible ChainEntryNext := by
  intro f g r s hf hg hr hs heq
  -- The fixed texts differ, but a fault of a match begins with an entry and not with a text of
  -- its own, so the first characters tell the kinds apart and not the texts.
  have hinitial : f.initial = g.initial := by
    apply Option.some.inj
    rw [← hf.head?_toText r, ← hg.head?_toText s, heq]
  cases f with
  | invalidAction word =>
      cases g with
      | invalidAction word' =>
          simp only [Fault.toText_invalidAction, String.toList_append, List.append_assoc] at heq
          obtain ⟨hword, hrest⟩ :=
            Readable.upTo ';' hf hg hr.stopsAt hs.stopsAt (List.append_cancel_left heq)
          exact ⟨by rw [String.toList_inj.mp hword], hrest⟩
      | _ => cases hinitial
  | conditions set =>
      cases g with
      | conditions set' =>
          obtain ⟨rfl, hrest⟩ := readable_matchFaults hf hg hr hs heq
          exact ⟨rfl, hrest⟩
      | _ => cases hinitial
  | noConditions =>
      cases g with
      | noConditions => exact ⟨rfl, List.append_cancel_left heq⟩
      | _ => cases hinitial

end Rule

namespace ChainFaults

/-- All faults can be told from their texts. -/
def Legible (e : ChainFaults) : Prop := ∀ x ∈ e.faults, x.2.Legible

instance : DecidablePred Legible := fun e =>
  inferInstanceAs (Decidable (∀ x ∈ e.faults, x.2.Legible))

theorem eq_of_toText_eq {e e' : ChainFaults} (he : e.Legible) (he' : e'.Legible)
    (h : e.toText = e'.toText) : e = e' := by
  obtain ⟨faults⟩ := e
  obtain ⟨faults'⟩ := e'
  simp only [toText, placedTexts_map] at h
  have hfaults := (readable_entry "chain" Rule.readable_fault).separated_injective ?_
    (.inl rfl) (by decide) entryText_ne_empty he he' h
  · exact congrArg mk hfaults
  · intro x r
    exact .inr (by simp [toList_entryText])

end ChainFaults

/-- No tag and no action of the chain has a semicolon. -/
def Chain.Legible (c : Chain) : Prop :=
  ∀ r ∈ c.rules, ';' ∉ r.action.word.toList ∧ ∀ m ∈ r.conditions, ';' ∉ m.mode.tag.toList

instance : DecidablePred Chain.Legible := fun c =>
  inferInstanceAs (Decidable (∀ r ∈ c.rules,
    ';' ∉ r.action.word.toList ∧ ∀ m ∈ r.conditions, ';' ∉ m.mode.tag.toList))

theorem Match.legible_of_check {m : Match} {fault : Fault} (hm : ';' ∉ m.mode.tag.toList)
    (h : m.check = .error fault) : fault.Legible := by
  cases check_eq_iff_verdict.mp h with
  | unsupported hmode =>
      rw [hmode] at hm
      exact hm
  | missing => trivial
  | extra => trivial

theorem Rule.legible_of_mem_reported {strict : Bool} {r : Rule} {fault : Fault}
    (haction : ';' ∉ r.action.word.toList) (hmodes : ∀ m ∈ r.conditions, ';' ∉ m.mode.tag.toList)
    (h : fault ∈ r.reported strict) : fault.Legible := by
  cases fault with
  | invalidAction word =>
      rw [invalidAction_mem_reported.mp h] at haction
      exact haction
  | conditions set =>
      obtain ⟨⟨m, hm, hfaulty⟩, rfl⟩ :=
        Match.checkAll_eq_error_iff.mp (conditions_mem_reported.mp h)
      refine ⟨fun hnone => hfaulty (Match.faultsOf_eq_nil_iff.mp hnone m hm), ?_⟩
      rintro ⟨place, fault⟩ hx
      obtain ⟨m', hm', hcheck⟩ := ((Match.reports_faultsOf r.conditions).mem_iff ..).mp hx
      exact Match.legible_of_check (hmodes m' (List.mem_of_getElem? hm')) hcheck
  | noConditions => trivial

theorem Chain.Legible.of_check {strict : Bool} {c : Chain} {e : ChainFaults} (hc : c.Legible)
    (h : c.checkWith strict = .error e) : e.Legible := by
  obtain ⟨_, rfl⟩ := checkWith_eq_error_iff.mp h
  rintro ⟨i, fault⟩ hx
  obtain ⟨r, hr, hfault⟩ := mem_faults.mp hx
  obtain ⟨haction, hmodes⟩ := hc r (List.mem_of_getElem? hr)
  exact Rule.legible_of_mem_reported haction hmodes hfault

/-- Faults are told from what they print, if every list of faults of matches has an entry and no
action and no tag in them has a semicolon: texts are equal only for equal faults at equal places in
the same order. So it is with all faults that the two checks and making ready report of chains whose
tags and actions have no semicolon. -/
theorem ChainFaults.text_tells_faults :
    (∀ e e' : ChainFaults, e.Legible → e'.Legible → (e.toText = e'.toText ↔ e = e')) ∧
    ∀ (search : Search) (c : Chain) (e : ChainFaults), c.Legible →
      c.check = .error e ∨ c.checkStrictly = .error e ∨
        (Filter.compile search c).value = .error e → e.Legible := by
  refine ⟨?_, ?_⟩
  · intro e e' he he'
    exact ⟨eq_of_toText_eq he he', fun h => by rw [h]⟩
  · rintro search c e hc (h | h | h)
    · exact hc.of_check h
    · exact hc.of_check h
    · exact hc.of_check (Filter.value_compile_eq_error_iff.mp h)

/-- Two matches of one rule are at fault, the second for a tag that looks like an entry of a
chain. -/
def ChainFaults.nested : ChainFaults :=
  ⟨[(0, .conditions ⟨[(1, .missing .isAdmin),
    (2, .unsupported "x, in chain index 2: unrecognized action: drop")]⟩)]⟩

/-- A match of one rule is at fault and the action of another. -/
def ChainFaults.flat : ChainFaults :=
  ⟨[(0, .conditions ⟨[(1, .missing .isAdmin)]⟩), (2, .invalidAction "drop")]⟩

/-- The two are told apart, and so are the faults of a chain of which every kind is reported. -/
theorem ChainFaults.text_tells_faults_nested :
    nested.Legible ∧ flat.Legible ∧ nested.toText ≠ flat.toText ∧
      Chain.withFaults.Legible ∧
      Chain.withFaults.checkStrictly = .error ⟨Chain.withFaults.faults true⟩ ∧
      Legible ⟨Chain.withFaults.faults true⟩ := by
  obtain ⟨htells, hreported⟩ := ChainFaults.text_tells_faults
  have hnested : nested.Legible := by decide
  have hflat : flat.Legible := by decide
  have hchain : Chain.withFaults.Legible := by decide
  have hstrict : Chain.withFaults.checkStrictly = .error ⟨Chain.withFaults.faults true⟩ := by decide
  refine ⟨hnested, hflat, (htells _ _ hnested hflat).not.mpr (by decide), hchain, hstrict, ?_⟩
  exact hreported (fun _ => none) _ _ hchain (.inr (.inl hstrict))

end BroadcastFilter
