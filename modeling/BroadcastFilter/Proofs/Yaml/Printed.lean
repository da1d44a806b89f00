import BroadcastFilter.Proofs.Yaml.Character
import BroadcastFilter.Yaml.Node
import BroadcastFilter.Yaml.Printer
import BroadcastFilter.Yaml.Token.Stream

/-!
What printed text says. A value has its tokens and its node: strings keep the style in which they
are written, records are maps in block style, and the items of a list under a key stand in the key's
column, with no token of their own for the start and the end of the list.
-/

namespace BroadcastFilter.Yaml

open Json

namespace Printer

/-- The style in which a string is written as a value. -/
def style (s : String) : Style :=
  if s.toList.contains '\n' then
    if (Shape.of s.toList).allowsLiteral then .literal else .doubleQuoted
  else if Scalar.resolve s = .text ∧ ¬ Scalar.hasLeadingZero s.toList ∧
      (Shape.of s.toList).allowsPlain then .plain
  else if (Shape.of s.toList).allowsSingle then .singleQuoted
  else .doubleQuoted

/-- The four ways in which a string is written, and when each is chosen. -/
theorem string_cases (s : String) :
    (style s = .literal ∧ (∀ k, string k s = literal k s.toList) ∧ '\n' ∈ s.toList ∧
      (Shape.of s.toList).allowsLiteral = true) ∨
    (style s = .plain ∧ (∀ k, string k s = s ++ "\n") ∧ Scalar.resolve s = .text ∧
      (Shape.of s.toList).allowsPlain = true) ∨
    (style s = .singleQuoted ∧ (∀ k, string k s = "'" ++ singleQuoted k false s.toList ++ "'\n") ∧
      '\n' ∉ s.toList ∧ (Shape.of s.toList).allowsSingle = true) ∨
    (style s = .doubleQuoted ∧
      ∀ k, string k s = "\"" ++ String.join (s.toList.map doubleQuotedChar) ++ "\"\n") := by
  simp only [style, string, List.contains_iff_mem]
  by_cases hline : '\n' ∈ s.toList
  · by_cases hliteral : (Shape.of s.toList).allowsLiteral = true
    · exact .inl (by simp [hline, hliteral])
    · exact .inr (.inr (.inr (by simp [hline, hliteral])))
  · by_cases hplain : Scalar.resolve s = .text ∧ ¬ Scalar.hasLeadingZero s.toList ∧
        (Shape.of s.toList).allowsPlain
    · refine .inr (.inl ?_)
      rw [if_neg hline, if_pos hplain]
      exact ⟨rfl, fun k => by rw [if_neg hline, if_pos hplain], hplain.1, hplain.2.2⟩
    · rw [if_neg hline, if_neg hplain]
      by_cases hsingle : (Shape.of s.toList).allowsSingle = true
      · refine .inr (.inr (.inl ?_))
        rw [if_pos hsingle]
        exact ⟨rfl, fun k => by rw [if_neg hline, if_neg hplain, if_pos hsingle], hline, hsingle⟩
      · refine .inr (.inr (.inr ?_))
        rw [if_neg hsingle]
        exact ⟨rfl, fun k => by rw [if_neg hline, if_neg hplain, if_neg hsingle]⟩

/-- A key that is written as it is, on one line. -/
structure IsWord (k : String) : Prop where
  ne_nil : k.toList ≠ []
  chars : ∀ c ∈ k.toList, isWordChar c = true
  short : k.toList.length ≤ Lexer.longestKey
  key : key k = k

instance : DecidablePred IsWord := fun k =>
  decidable_of_iff
    (k.toList ≠ [] ∧ k.toList.all isWordChar = true ∧ k.toList.length ≤ Lexer.longestKey ∧
      key k = k)
    ⟨fun ⟨hne, hchars, hshort, hkey⟩ => ⟨hne, List.all_eq_true.mp hchars, hshort, hkey⟩,
      fun h => ⟨h.ne_nil, List.all_eq_true.mpr h.chars, h.short, h.key⟩⟩

mutual

/-- What a value is read as. -/
def node : Value → Node
  | .null => .scalar "null" .plain none
  | .bool b => .scalar (if b then "true" else "false") .plain none
  | .number n => .scalar n.toText .plain none
  | .string s => .scalar s (style s) none
  | .array items => .sequence none (itemNodes items)
  | .object entries => .mapping none (entryNodes entries)

def itemNodes : List Value → List Node
  | [] => []
  | item :: rest => node item :: itemNodes rest

def entryNodes : List (String × Value) → List (Node × Node)
  | [] => []
  | (k, v) :: rest => (.scalar k .plain none, node v) :: entryNodes rest

end

mutual

/-- The tokens of a value under a key, or of a record. -/
def tokens : Value → List Token
  | .null => [.scalar "null" .plain]
  | .bool b => [.scalar (if b then "true" else "false") .plain]
  | .number n => [.scalar n.toText .plain]
  | .string s => [.scalar s (style s)]
  | .array [] => [.flowSequenceStart, .flowSequenceEnd]
  | .array (item :: rest) => .blockEntry :: (tokens item ++ itemTokens rest)
  | .object entries => .blockMappingStart :: (entryTokens entries ++ [.blockEnd])

def itemTokens : List Value → List Token
  | [] => []
  | item :: rest => .blockEntry :: (tokens item ++ itemTokens rest)

def entryTokens : List (String × Value) → List Token
  | [] => []
  | (k, v) :: rest => .key :: .scalar k .plain :: .value :: (tokens v ++ entryTokens rest)

end

/-- Values under keys: scalars, and lists of records. Keys are words, and numbers are whole. -/
inductive Laid : Value → Prop
  | bool (b : Bool) : Laid (.bool b)
  | whole (n : Int) : Laid (.number (.integer n))
  | string (s : String) : Laid (.string s)
  | records {records : List (List (String × Value))} (hne : ∀ r ∈ records, r ≠ [])
    (hwords : ∀ r ∈ records, ∀ e ∈ r, IsWord e.1) (hvalues : ∀ r ∈ records, ∀ e ∈ r, Laid e.2) :
    Laid (.array (records.map .object))

/-- A record as a document or as an item of a list: it has entries, with words for keys. -/
inductive LaidRecord : Value → Prop
  | entries {record : List (String × Value)} (hne : record ≠ []) (hwords : ∀ e ∈ record, IsWord e.1)
    (hvalues : ∀ e ∈ record, Laid e.2) : LaidRecord (.object record)

theorem laid_array {items : List Value} (h : ∀ v ∈ items, LaidRecord v) : Laid (.array items) := by
  have hrecords : ∃ records : List (List (String × Value)), items = records.map .object ∧
      ∀ r ∈ records, r ≠ [] ∧ (∀ e ∈ r, IsWord e.1) ∧ ∀ e ∈ r, Laid e.2 := by
    induction items with
    | nil => exact ⟨[], rfl, List.forall_mem_nil _⟩
    | cons v items ih =>
        obtain ⟨hv, hitems⟩ := List.forall_mem_cons.mp h
        obtain ⟨records, rfl, hrecords⟩ := ih hitems
        cases hv with
        | @entries record hne hwords hvalues =>
            exact ⟨record :: records, rfl,
              List.forall_mem_cons.mpr ⟨⟨hne, hwords, hvalues⟩, hrecords⟩⟩
  obtain ⟨records, rfl, hrecords⟩ := hrecords
  exact .records (fun r hr => (hrecords r hr).1) (fun r hr => (hrecords r hr).2.1)
    fun r hr => (hrecords r hr).2.2

/-- The decimal digits of a number. -/
theorem exists_digits (n : Nat) :
    ∃ c cs, Nat.toDigits 10 n = c :: cs ∧ ∀ d ∈ c :: cs, d.isDigit = true := by
  obtain ⟨c, cs, hdigits⟩ := List.exists_cons_of_ne_nil (Nat.toDigits_ne_nil (n := n) (b := 10))
  refine ⟨c, cs, hdigits, fun d hd => ?_⟩
  rw [← hdigits] at hd
  exact Nat.isDigit_of_mem_toDigits (by decide) (by decide) hd

/-- A whole number is written in digits, after a mark if it is negative. -/
theorem toList_whole (n : Int) :
    (Number.integer n).toText.toList =
      if 0 ≤ n then Nat.toDigits 10 n.toNat else '-' :: Nat.toDigits 10 (-n).toNat := by
  rw [Number.toText, Int.toString_eq_repr, Int.repr_eq_if]
  split <;> simp [Nat.toList_repr]

end Printer

end BroadcastFilter.Yaml
