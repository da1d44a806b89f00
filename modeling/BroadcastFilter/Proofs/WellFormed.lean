import BroadcastFilter.Chain

/-!
What it is for a match, a rule and a chain to be well formed, said without the checks, and the proof
that the checks accept exactly what is well formed. Everything that is later proved of a chain that
has been checked starts from here.
-/

namespace BroadcastFilter

theorem Slot.mem_all (s : Slot) : s ∈ Slot.all := by
  cases s <;> simp [Slot.all]

namespace Match

theorem isSome_nonempty_iff {slot : Option String} :
    (nonempty slot).isSome = true ↔ ∃ text, slot = some text ∧ text ≠ "" := by
  cases slot with
  | none => simp [nonempty]
  | some text => simp [nonempty, Option.filter]

theorem nonempty_some {text : String} (htext : text ≠ "") :
    nonempty (some text) = some text := by
  simp [nonempty, Option.filter, htext]

theorem mem_present {m : Match} {s : Slot} : s ∈ m.present ↔ m.has s = true := by
  simp [present, Slot.mem_all]

theorem mem_extras {m : Match} {s : Slot} :
    s ∈ m.extras ↔ m.has s = true ∧ m.mode.slot? ≠ some s := by
  simp only [extras, List.mem_filter, mem_present, ne_eq, decide_not, Bool.not_eq_true',
    decide_eq_false_iff_not, eq_comm (a := some s)]

/-- The mode is known, and the slots that hold something are the slot of the mode and no other. -/
structure WellFormed (m : Match) : Prop where
  known : m.mode.isKnown = true
  has_iff : ∀ s, m.has s = true ↔ m.mode.slot? = some s

theorem extras_eq_nil_iff {m : Match} :
    m.extras = [] ↔ ∀ s, m.has s = true → m.mode.slot? = some s := by
  rw [List.eq_nil_iff_forall_not_mem]
  constructor
  · intro hnone s hs
    by_cases hslot : m.mode.slot? = some s
    · exact hslot
    · exact absurd (mem_extras.mpr ⟨hs, hslot⟩) (hnone s)
  · intro honly s hs
    obtain ⟨hhas, hslot⟩ := mem_extras.mp hs
    exact hslot (honly s hhas)

/-- The check of a match accepts exactly the well-formed ones. -/
theorem check_eq_ok_iff {m : Match} : m.check = .ok () ↔ m.WellFormed := by
  unfold check
  -- The check stops at the first of three faults: the mode, its slot, the other slots.
  cases hknown : m.mode.isKnown with
  | false =>
      constructor
      · intro h
        simp at h
      · intro h
        have := h.known
        simp [hknown] at this
  | true =>
      have hrequired : m.mode.slot?.filter (fun s => !m.has s) = none ↔
          ∀ s, m.mode.slot? = some s → m.has s = true := by
        simp [Option.filter_eq_none_iff]
      cases hmissing : m.mode.slot?.filter (fun s => !m.has s) with
      | some slot =>
          constructor
          · intro h
            simp at h
          · intro h
            have hnone := hrequired.mpr fun s hs => (h.has_iff s).mpr hs
            simp [hnone] at hmissing
      | none =>
          have hpresent := hrequired.mp hmissing
          constructor
          · intro h
            have hextras : m.extras = [] := by
              simpa using h
            have honly := extras_eq_nil_iff.mp hextras
            exact ⟨hknown, fun s => ⟨honly s, hpresent s⟩⟩
          · intro h
            have hextras := extras_eq_nil_iff.mpr fun s => (h.has_iff s).mp
            simp [hextras]

theorem faultsOf_eq_nil_iff {ms : List Match} :
    faultsOf ms = [] ↔ ∀ m ∈ ms, m.check = .ok () := by
  rw [faultsOf, List.filterMap_eq_nil_iff]
  constructor
  · intro hnone m hm
    obtain ⟨index, hindex⟩ := List.getElem?_of_mem hm
    have hm' := hnone (m, index) (List.mk_mem_zipIdx_iff_getElem?.mpr hindex)
    cases hcheck : m.check with
    | ok _ => rfl
    | error fault => simp [hcheck] at hm'
  · rintro hall ⟨m, index⟩ hm
    simp [hall m (List.fst_mem_of_mem_zipIdx hm)]

theorem checkAll_eq_ok_iff {ms : List Match} :
    checkAll ms = .ok () ↔ ∀ m ∈ ms, m.WellFormed := by
  have hfaults : checkAll ms = .ok () ↔ faultsOf ms = [] := by
    unfold checkAll
    split <;> simp_all
  rw [hfaults, faultsOf_eq_nil_iff]
  simp only [check_eq_ok_iff]

end Match

/-- The action is one of the two known ones and every condition is well formed. -/
structure Rule.WellFormed (r : Rule) : Prop where
  action : r.action.isRecognized = true
  conditions : ∀ m ∈ r.conditions, m.WellFormed

theorem Rule.faults_eq_nil_iff {r : Rule} : r.faults = [] ↔ r.WellFormed := by
  unfold Rule.faults
  cases hcheck : Match.checkAll r.conditions with
  | ok _ =>
      have hall := Match.checkAll_eq_ok_iff.mp hcheck
      constructor
      · intro h
        exact ⟨by simpa using h, hall⟩
      · intro h
        simp [h.action]
  | error faults =>
      constructor
      · intro h
        simp at h
      · intro h
        have hok := Match.checkAll_eq_ok_iff.mpr h.conditions
        simp [hok] at hcheck

namespace Chain

def WellFormed (c : Chain) : Prop := ∀ r ∈ c.rules, r.WellFormed

/-- A strict check also asks that no rule be without conditions. -/
theorem faults_eq_nil_iff {strict : Bool} {c : Chain} :
    c.faults strict = [] ↔
      c.WellFormed ∧ (strict = true → ∀ r ∈ c.rules, r.conditions ≠ []) := by
  have hrule (r : Rule) (index : Nat) :
      (r.faults ++ (if strict && r.conditions.isEmpty then [Rule.Fault.noConditions] else [])).map
        (index, ·) = [] ↔ r.WellFormed ∧ (strict = true → r.conditions ≠ []) := by
    simp [Rule.faults_eq_nil_iff]
  rw [faults, List.flatMap_eq_nil_iff]
  constructor
  · intro hnone
    have hat (r : Rule) (hr : r ∈ c.rules) :
        r.WellFormed ∧ (strict = true → r.conditions ≠ []) := by
      obtain ⟨index, hindex⟩ := List.getElem?_of_mem hr
      exact (hrule r index).mp (hnone (r, index) (List.mk_mem_zipIdx_iff_getElem?.mpr hindex))
    exact ⟨fun r hr => (hat r hr).1, fun hstrict r hr => (hat r hr).2 hstrict⟩
  · rintro ⟨hformed, hbare⟩ ⟨r, index⟩ hr
    have hmem := List.fst_mem_of_mem_zipIdx hr
    exact (hrule r index).mpr ⟨hformed r hmem, fun hstrict => hbare hstrict r hmem⟩

theorem checkWith_eq_ok_iff {strict : Bool} {c : Chain} :
    c.checkWith strict = .ok () ↔ c.faults strict = [] := by
  unfold checkWith
  split <;> simp_all

/-- The check of a chain accepts exactly the well-formed ones. -/
theorem check_eq_ok_iff {c : Chain} : c.check = .ok () ↔ c.WellFormed := by
  rw [check, checkWith_eq_ok_iff, faults_eq_nil_iff]
  simp

end Chain

end BroadcastFilter
