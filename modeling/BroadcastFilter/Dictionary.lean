/-!
Values under text keys, kept in ascending order of the keys with no key twice. The order makes two
dictionaries with the same entries equal, in whatever order the entries were put in.
-/

namespace BroadcastFilter

/-- Puts an entry into an ascending list; an entry with the same key is replaced. -/
def insertEntry {A : Type} (key : String) (value : A) : List (String × A) → List (String × A)
  | [] => [(key, value)]
  | (k, v) :: rest =>
    if key < k then (key, value) :: (k, v) :: rest
    else if k < key then (k, v) :: insertEntry key value rest
    else (key, value) :: rest

theorem mem_insertEntry {A : Type} {key : String} {value : A} {entries : List (String × A)}
    {e : String × A} (h : e ∈ insertEntry key value entries) : e = (key, value) ∨ e ∈ entries := by
  induction entries with
  | nil => exact .inl (by simpa [insertEntry] using h)
  | cons head rest ih =>
    unfold insertEntry at h
    split at h
    · simpa using h
    · split at h
      · rcases List.mem_cons.1 h with h | h
        · exact .inr (by simp [h])
        · rcases ih h with h | h
          · exact .inl h
          · exact .inr (by simp [h])
      · rcases List.mem_cons.1 h with h | h
        · exact .inl h
        · exact .inr (by simp [h])

/-- The entries stand in ascending order of their keys. -/
def Ascending {A : Type} (entries : List (String × A)) : Prop :=
  entries.Pairwise fun x y => x.1 < y.1

theorem Ascending.insertEntry {A : Type} {entries : List (String × A)} (h : Ascending entries)
    (key : String) (value : A) : Ascending (insertEntry key value entries) := by
  induction entries with
  | nil => simp [BroadcastFilter.insertEntry, Ascending]
  | cons head rest ih =>
    obtain ⟨above, tail⟩ := List.pairwise_cons.1 h
    unfold BroadcastFilter.insertEntry
    split
    next lt =>
      refine List.pairwise_cons.2 ⟨fun e he => ?_, h⟩
      rcases List.mem_cons.1 he with rfl | he
      · exact lt
      · exact String.lt_trans lt (above e he)
    next notLt =>
      split
      next gt =>
        refine List.pairwise_cons.2 ⟨fun e he => ?_, ih tail⟩
        rcases mem_insertEntry he with rfl | he
        · exact gt
        · exact above e he
      next notGt =>
        have same : key = head.1 :=
          String.le_antisymm (String.not_lt.1 notGt) (String.not_lt.1 notLt)
        exact List.pairwise_cons.2 ⟨fun e he => same ▸ above e he, tail⟩

/-- Entries in ascending order of their keys, no key twice. -/
structure Dictionary (A : Type) where
  entries : List (String × A)
  ascending : Ascending entries

namespace Dictionary

variable {A : Type}

def empty : Dictionary A := ⟨[], List.Pairwise.nil⟩

instance : EmptyCollection (Dictionary A) := ⟨empty⟩

instance : Inhabited (Dictionary A) := ⟨empty⟩

def insert (d : Dictionary A) (key : String) (value : A) : Dictionary A :=
  ⟨insertEntry key value d.entries, d.ascending.insertEntry key value⟩

/-- A later entry replaces an earlier one with the same key. -/
def ofList (entries : List (String × A)) : Dictionary A :=
  entries.foldl (fun d e => d.insert e.1 e.2) empty

def keys (d : Dictionary A) : List String := d.entries.map (·.1)

def isEmpty (d : Dictionary A) : Bool := d.entries.isEmpty

@[ext] theorem ext {d e : Dictionary A} (h : d.entries = e.entries) : d = e := by
  cases d; cases e; simp_all

end Dictionary

end BroadcastFilter
