import BroadcastFilter.Proofs.Yaml.Printable
import BroadcastFilter.Yaml.Node.OfTokens

/-!
The nodes of printed text. From the tokens of a value its node is read, and what follows is left; no
more steps are taken than the tokens allow for.
-/

namespace BroadcastFilter.Yaml

open Json

namespace Reading

/-- With other tokens. -/
def ahead (r : Reading) (ts : List Token) : Reading := { r with tokens := ts }

variable {r : Reading} {t : Token} {ts : List Token}

@[simp] theorem tokens_ahead : (r.ahead ts).tokens = ts := rfl

@[simp] theorem peek_ahead : (r.ahead (t :: ts)).peek = some t := rfl

@[simp] theorem skip_ahead : (r.ahead (t :: ts)).skip = r.ahead ts := rfl

/-- A token with which content begins, without properties before it. -/
def opensContent : Token → Bool
  | .scalar .. | .flowSequenceStart | .blockEntry | .blockMappingStart => true
  | _ => false

/-- A node without properties is its content. -/
theorem node_of_content {block bare : Bool} {fuel : Nat} {found : Node} {r' : Reading}
    (ht : opensContent t = true)
    (h : content block bare none none fuel (r.ahead (t :: ts)) = (some found, r')) :
    node block bare (fuel + 1) (r.ahead (t :: ts)) = (found, r') := by
  cases t <;> first | (cases ht; done) | simp [node, properties, h]

theorem place_of_content {leaving : List Token} {block bare : Bool} {fuel : Nat} {found : Node}
    {r' : Reading} (ht : opensContent t = true) (hleaving : leaving.contains t = false)
    (h : content block bare none none fuel (r.ahead (t :: ts)) = (some found, r')) :
    place leaving block bare (fuel + 2) (r.ahead (t :: ts)) = (found, r') := by
  rw [place, leavesEmpty, peek_ahead, Option.any_some, hleaving, if_neg (by simp),
    node_of_content ht h]

theorem content_scalar (block bare : Bool) (fuel : Nat) (text : String) (style : Style) :
    content block bare none none (fuel + 1) (r.ahead (.scalar text style :: ts)) =
      (some (.scalar text style none), r.ahead ts) := by
  simp [content]

theorem content_brackets (block bare : Bool) (fuel : Nat) :
    content block bare none none (fuel + 2)
        (r.ahead (.flowSequenceStart :: .flowSequenceEnd :: ts)) =
      (some (.sequence none []), r.ahead ts) := by
  simp [content, flowItems]

theorem content_items {block : Bool} {fuel : Nat} {items : List Node} {r' : Reading}
    (h : bareItems fuel (r.ahead (.blockEntry :: ts)) = (items, r')) :
    content block true none none (fuel + 1) (r.ahead (.blockEntry :: ts)) =
      (some (.sequence none items), r') := by
  simp [content, h]

theorem content_record {bare : Bool} {fuel : Nat} {entries : List (Node × Node)} {r' : Reading}
    (h : blockEntries fuel (r.ahead ts) = (entries, r')) :
    content true bare none none (fuel + 1) (r.ahead (.blockMappingStart :: ts)) =
      (some (.mapping none entries), r') := by
  simp [content, h]

theorem blockEntries_entry {fuel : Nat} {key value : Node} {entries : List (Node × Node)}
    {r₁ r₂ r₃ : Reading} (hkey : place afterKey true true fuel (r.ahead ts) = (key, r₁))
    (hvalue : blockValue fuel r₁ = (value, r₂)) (hmore : blockEntries fuel r₂ = (entries, r₃)) :
    blockEntries (fuel + 1) (r.ahead (.key :: ts)) = ((key, value) :: entries, r₃) := by
  rw [blockEntries]
  simp only [peek_ahead, skip_ahead, hkey, hvalue, hmore]

theorem blockValue_value (fuel : Nat) :
    blockValue (fuel + 1) (r.ahead (.value :: ts)) =
      place afterKey true true fuel (r.ahead ts) := by
  rw [blockValue]
  simp only [peek_ahead, skip_ahead]

theorem bareItems_item {fuel : Nat} {item : Node} {items : List Node} {r₁ r₂ : Reading}
    (hitem : place afterBareEntry true false fuel (r.ahead ts) = (item, r₁))
    (hmore : bareItems fuel r₁ = (items, r₂)) :
    bareItems (fuel + 1) (r.ahead (.blockEntry :: ts)) = (item :: items, r₂) := by
  rw [bareItems]
  simp only [peek_ahead, skip_ahead, hitem, hmore]

/-- Tokens after a value under a key: no further item comes next. -/
def Follows (rest : List Token) : Prop := ∃ t more, rest = t :: more ∧ t ≠ .blockEntry

theorem follows_cons {more : List Token} (h : t ≠ .blockEntry) : Follows (t :: more) :=
  ⟨t, more, rfl, h⟩

/-- From its tokens the node of a value under a key is read. -/
def Reads (v : Value) : Prop :=
  ∀ (r : Reading) (rest : List Token) (fuel : Nat), Follows rest →
    5 * (Printer.tokens v).length + 4 ≤ fuel →
    place afterKey true true fuel (r.ahead (Printer.tokens v ++ rest)) =
      (Printer.node v, r.ahead rest)

theorem reads_scalar {v : Value} {text : String} {style : Style}
    (htokens : Printer.tokens v = [.scalar text style])
    (hnode : Printer.node v = .scalar text style none) : Reads v := by
  intro r rest fuel _ hfuel
  obtain ⟨fuel, rfl⟩ := Nat.exists_eq_add_of_le' (show 3 ≤ fuel by omega)
  rw [htokens, hnode]
  exact place_of_content rfl (by simp [afterKey]) (content_scalar true true fuel text style)

theorem blockEntries_reads {entries : List (String × Value)} (hvalues : ∀ e ∈ entries, Reads e.2)
    {rest : List Token} {fuel : Nat} (hfuel : 5 * (Printer.entryTokens entries).length + 1 ≤ fuel) :
    blockEntries fuel (r.ahead (Printer.entryTokens entries ++ .blockEnd :: rest)) =
      (Printer.entryNodes entries, r.ahead rest) := by
  induction entries generalizing fuel with
  | nil =>
      obtain ⟨fuel, rfl⟩ := Nat.exists_eq_add_of_le' (show 1 ≤ fuel by omega)
      simp [Printer.entryTokens, Printer.entryNodes, blockEntries]
  | cons entry entries ih =>
      obtain ⟨k, v⟩ := entry
      simp only [Printer.entryTokens, List.length_cons, List.length_append] at hfuel
      obtain ⟨fuel, rfl⟩ := Nat.exists_eq_add_of_le' (show 4 ≤ fuel by omega)
      have hfollows : Follows (Printer.entryTokens entries ++ .blockEnd :: rest) := by
        cases entries with
        | nil => exact follows_cons (by simp)
        | cons next entries => exact follows_cons (by simp)
      have hkey : place afterKey true true (fuel + 3) (r.ahead (.scalar k .plain :: .value ::
          (Printer.tokens v ++ (Printer.entryTokens entries ++ .blockEnd :: rest)))) =
          (.scalar k .plain none, r.ahead (.value ::
            (Printer.tokens v ++ (Printer.entryTokens entries ++ .blockEnd :: rest)))) :=
        place_of_content rfl (by simp [afterKey]) (content_scalar true true fuel k .plain)
      have hvalue := hvalues (k, v) (by simp) r _ (fuel + 2) hfollows (by simp only; omega)
      rw [← blockValue_value] at hvalue
      have hmore := ih (fun e he => hvalues e (by simp [he])) (show _ ≤ fuel + 3 by omega)
      rw [Printer.entryTokens, Printer.entryNodes]
      simp only [List.cons_append, List.append_assoc]
      exact blockEntries_entry hkey hvalue hmore

theorem content_reads (r : Reading) (bare : Bool) {record : List (String × Value)}
    (hvalues : ∀ e ∈ record, Reads e.2) (rest : List Token) {fuel : Nat}
    (hfuel : 5 * (Printer.entryTokens record).length + 2 ≤ fuel) :
    content true bare none none fuel
        (r.ahead (.blockMappingStart :: (Printer.entryTokens record ++ .blockEnd :: rest))) =
      (some (Printer.node (.object record)), r.ahead rest) := by
  obtain ⟨fuel, rfl⟩ := Nat.exists_eq_add_of_le' (show 1 ≤ fuel by omega)
  have hentries : blockEntries fuel (r.ahead (Printer.entryTokens record ++ .blockEnd :: rest)) =
      (Printer.entryNodes record, r.ahead rest) :=
    blockEntries_reads hvalues (by omega)
  rw [content_record hentries, Printer.node]

theorem tokens_record (record : List (String × Value)) (rest : List Token) :
    Printer.tokens (.object record) ++ rest =
      .blockMappingStart :: (Printer.entryTokens record ++ .blockEnd :: rest) := by
  simp [Printer.tokens]

/-- A record among the items of a list. -/
theorem item_reads (r : Reading) {record : List (String × Value)}
    (hvalues : ∀ e ∈ record, Reads e.2) (rest : List Token) {fuel : Nat}
    (hfuel : 5 * (Printer.tokens (.object record)).length + 4 ≤ fuel) :
    place afterBareEntry true false fuel (r.ahead (Printer.tokens (.object record) ++ rest)) =
      (Printer.node (.object record), r.ahead rest) := by
  simp only [Printer.tokens, List.length_cons, List.length_append] at hfuel
  obtain ⟨fuel, rfl⟩ := Nat.exists_eq_add_of_le' (show 2 ≤ fuel by omega)
  rw [tokens_record]
  exact place_of_content rfl (by decide) (content_reads r false hvalues rest (by omega))

theorem bareItems_reads {records : List (List (String × Value))}
    (hvalues : ∀ record ∈ records, ∀ e ∈ record, Reads e.2) {rest : List Token}
    (hrest : Follows rest) {fuel : Nat}
    (hfuel : 5 * (Printer.itemTokens (records.map .object)).length + 1 ≤ fuel) :
    bareItems fuel (r.ahead (Printer.itemTokens (records.map .object) ++ rest)) =
      (Printer.itemNodes (records.map .object), r.ahead rest) := by
  induction records generalizing fuel with
  | nil =>
      obtain ⟨fuel, rfl⟩ := Nat.exists_eq_add_of_le' (show 1 ≤ fuel by omega)
      obtain ⟨t, more, rfl, ht⟩ := hrest
      simp [Printer.itemTokens, Printer.itemNodes, bareItems]
  | cons record records ih =>
      simp only [List.map_cons, Printer.itemTokens, List.length_cons, List.length_append] at hfuel
      obtain ⟨fuel, rfl⟩ := Nat.exists_eq_add_of_le' (show 1 ≤ fuel by omega)
      have hitem := item_reads r (hvalues record (by simp))
        (Printer.itemTokens (records.map .object) ++ rest) (show _ ≤ fuel by omega)
      have hmore := ih (fun record hrecord => hvalues record (by simp [hrecord]))
        (show _ ≤ fuel by omega)
      simp only [List.map_cons, Printer.itemTokens, Printer.itemNodes, List.cons_append,
        List.append_assoc]
      exact bareItems_item hitem hmore

/-- All values under keys are read from their tokens. -/
theorem reads_of_laid {v : Value} (h : Printer.Laid v) : Reads v := by
  induction h with
  | bool b => exact reads_scalar rfl rfl
  | whole n => exact reads_scalar rfl rfl
  | string s => exact reads_scalar rfl rfl
  | @records records _ _ _ hvalues =>
      intro r rest fuel hrest hfuel
      cases records with
      | nil =>
          obtain ⟨fuel, rfl⟩ := Nat.exists_eq_add_of_le' (show 4 ≤ fuel by omega)
          exact place_of_content rfl (by simp [afterKey]) (content_brackets true true fuel)
      | cons record more =>
          have htokens : Printer.tokens (.array ((record :: more).map .object)) =
              Printer.itemTokens ((record :: more).map .object) := rfl
          rw [htokens] at hfuel ⊢
          obtain ⟨fuel, rfl⟩ := Nat.exists_eq_add_of_le' (show 3 ≤ fuel by omega)
          have hitems := bareItems_reads (r := r) hvalues hrest (show _ ≤ fuel by omega)
          exact place_of_content rfl (by simp [afterKey]) (content_items hitems)

/-- A record's text is one document and nothing else. -/
theorem document_render {v : Value} (h : Printer.LaidRecord v) :
    Document.ofText (render v) = ⟨Printer.node v, [], true⟩ := by
  obtain @⟨record, hne, hwords, hlaid⟩ := h
  have hvalues : ∀ e ∈ record, Reads e.2 := fun e he => reads_of_laid (hlaid e he)
  have htokens : Token.ofText (render (.object record)) =
      .blockMappingStart :: (Printer.entryTokens record ++ [.blockEnd, .streamEnd]) := by
    rw [ofText_render (.entries hne hwords hlaid), tokens_record]
  have hnode : node true false
      (fuelFor (.blockMappingStart :: (Printer.entryTokens record ++ [.blockEnd, .streamEnd])))
      (start (.blockMappingStart :: (Printer.entryTokens record ++ [.blockEnd, .streamEnd])) []) =
      (Printer.node (.object record), (start [] []).ahead [.streamEnd]) := by
    have hfuel : fuelFor (.blockMappingStart ::
        (Printer.entryTokens record ++ [.blockEnd, .streamEnd])) =
        5 * (Printer.entryTokens record).length + 24 + 1 := by
      simp [fuelFor]
      omega
    rw [hfuel]
    exact node_of_content rfl (content_reads (start [] []) false hvalues [.streamEnd] (by omega))
  have hplain : (Token.blockMappingStart == Token.documentStart) = false := rfl
  simp only [Document.ofText, htokens, root, isDirective, hnode, hplain, Bool.or_self,
    Bool.false_eq_true, if_false]
  have hanchored : ((start [] []).ahead [.streamEnd]).anchored = [] := rfl
  have hlast : ((start [] []).ahead [.streamEnd]).isAtEnd = true := rfl
  rw [hanchored, hlast, List.mergeSort_nil, List.map_nil]

end Reading

end BroadcastFilter.Yaml
