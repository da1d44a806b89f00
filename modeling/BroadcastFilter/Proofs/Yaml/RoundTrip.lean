import BroadcastFilter.Config.Load
import BroadcastFilter.Proofs.RoundTrip
import BroadcastFilter.Proofs.Yaml.Decoded
import BroadcastFilter.Proofs.Yaml.Nodes

/-!
Configurations as YAML. What is written for a configuration is one document, which says what the
value of the configuration says; so a canonical configuration comes back as it was, whatever its
names, patterns, tags and words are.
-/

namespace BroadcastFilter

open Json Decode Yaml
open Printer (IsWord Laid LaidRecord)

theorem exists_slot_of_mem_filled {slots : List (String × Option Value)} {e : String × Value}
    (he : e ∈ filled slots) : ∃ s ∈ slots, s.1 = e.1 ∧ e.2 ∈ s.2 := by
  obtain ⟨⟨name, held⟩, hs, he⟩ := List.mem_flatMap.mp he
  cases held with
  | none => cases he
  | some v =>
      cases List.mem_singleton.mp he
      exact ⟨_, hs, rfl, rfl⟩

namespace Match

theorem isWord_of_mem_slots (m : Match) : ∀ s ∈ m.slots, IsWord s.1 := by
  have hnames : ∀ k ∈ clauses.map (·.name), IsWord k := by
    decide +kernel
  rw [← m.names_slots] at hnames
  exact List.forall_mem_map.mp hnames

theorem laid_of_mem_slots (m : Match) : ∀ s ∈ m.slots, ∀ v ∈ s.2, Laid v := by
  have hheld {A : Type} {held : Option A} {write : A → Value} (hwrite : ∀ a, Laid (write a)) :
      ∀ v ∈ held.map write, Laid v := by
    cases held <;> simp [hwrite]
  have hregex : ∀ v ∈ (if m.regex then some (.bool true) else none), Laid v := by
    split <;> simp [Laid.bool]
  simp only [slots, List.forall_mem_cons]
  exact ⟨by simpa using .string _, hregex, hheld .string, hheld .string, hheld fun _ => .whole _,
    hheld .bool, hheld .string, hheld .string, hheld .string, hheld fun _ => .whole _, by simp⟩

theorem laid_toValue (m : Match) : LaidRecord m.toValue := by
  rw [toValue_eq_filled]
  refine .entries ?_ ?_ ?_
  · simp [filled, slots]
  · intro e he
    obtain ⟨s, hs, hname, -⟩ := exists_slot_of_mem_filled he
    exact hname ▸ m.isWord_of_mem_slots s hs
  · intro e he
    obtain ⟨s, hs, -, hheld⟩ := exists_slot_of_mem_filled he
    exact m.laid_of_mem_slots s hs e.2 hheld

theorem laid_listToValue (ms : List Match) : Laid (Match.listToValue ms) :=
  Printer.laid_array (List.forall_mem_map.mpr fun m _ => m.laid_toValue)

end Match

theorem Rule.laid_toValue (r : Rule) : LaidRecord r.toValue := by
  refine .entries (by simp) ?_ ?_
  · have hnames : ∀ k ∈ ["match", "action"], IsWord k := by
      decide +kernel
    simpa using hnames
  · simp only [List.forall_mem_cons]
    exact ⟨Match.laid_listToValue r.conditions, .string r.action.word, by simp⟩

theorem Chain.laid_toValue (c : Chain) : Laid c.toValue :=
  Printer.laid_array (List.forall_mem_map.mpr fun r _ => r.laid_toValue)

theorem Channel.laid_toValue (c : Channel) : LaidRecord c.toValue := by
  refine .entries (by simp) ?_ ?_
  · have hnames : ∀ k ∈ ["name", "public"], IsWord k := by
      decide +kernel
    simpa using hnames
  · simp only [List.forall_mem_cons]
    exact ⟨.string c.name, .bool c.isPublic, by simp⟩

theorem Config.laid_toValue (c : Config) : LaidRecord c.toValue := by
  refine .entries (by simp) ?_ ?_
  · have hnames : ∀ k ∈ ["channels", "sender_filter", "receiver_filter"], IsWord k := by
      decide +kernel
    simpa using hnames
  · have hchannels : ∀ v ∈ c.channels.map Channel.toValue, LaidRecord v :=
      List.forall_mem_map.mpr fun d _ => d.laid_toValue
    simp only [List.forall_mem_cons]
    exact ⟨Printer.laid_array hchannels, c.senderFilter.laid_toValue, c.receiverFilter.laid_toValue,
      by simp⟩

theorem Mode.carries_read : Carries Laid Mode.read := by
  intro v s m hv hs hread
  obtain ⟨tag, htag, hread⟩ := eq_ok_of_bind.mp hread
  exact eq_ok_of_bind.mpr ⟨tag, carries_text v s tag hv hs htag, hread⟩

theorem Action.carries_read : Carries Laid Action.read := by
  intro v s a hv hs hread
  obtain ⟨word, hword, hread⟩ := eq_ok_of_bind.mp hread
  exact eq_ok_of_bind.mpr ⟨word, carries_text v s word hv hs hword, hread⟩

theorem Match.carries_read : Carries LaidRecord Match.read := by
  have hschema : (Match.schema (N := Value)).Carries (Match.schema (N := Spot)) :=
    ⟨rfl, rfl,
      .cons (Field.carries_needed Mode.carries_read) <|
      .cons (Field.carries_defaulted carries_flag) <|
      .cons (Field.carries_defaulted (carries_optionally carries_text)) <|
      .cons (Field.carries_defaulted (carries_optionally carries_text)) <|
      .cons (Field.carries_defaulted (carries_optionally carries_natural)) <|
      .cons (Field.carries_defaulted (carries_optionally carries_flag)) <|
      .cons (Field.carries_defaulted (carries_optionally carries_text)) <|
      .cons (Field.carries_defaulted (carries_optionally carries_text)) <|
      .cons (Field.carries_defaulted (carries_optionally carries_text)) <|
      .cons (Field.carries_defaulted (carries_optionally carries_integer)) .nil⟩
  exact fun v s m => hschema.read

theorem Rule.carries_read : Carries LaidRecord Rule.read := by
  have hschema : (Rule.schema (N := Value)).Carries (Rule.schema (N := Spot)) :=
    ⟨rfl, rfl,
      .cons (Field.carries_needed (carries_list Match.carries_read)) <|
      .cons (Field.carries_needed Action.carries_read) .nil⟩
  exact fun v s r => hschema.read

theorem Chain.carries_read : Carries Laid Chain.read := by
  intro v s c hv hs hread
  obtain ⟨rules, hrules, hread⟩ := eq_ok_of_bind.mp hread
  have hlist := carries_list Rule.carries_read v s rules hv hs hrules
  exact eq_ok_of_bind.mpr ⟨rules, hlist, hread⟩

theorem Channel.carries_read : Carries LaidRecord Channel.read := by
  have hschema : (Channel.schema (N := Value)).Carries (Channel.schema (N := Spot)) :=
    ⟨rfl, rfl,
      .cons (Field.carries_needed carries_text) <|
      .cons (Field.carries_defaulted carries_flag) .nil⟩
  exact fun v s c => hschema.read

theorem Config.carries_read : Carries LaidRecord Config.read := by
  have hschema : (Config.schema (N := Value)).Carries (Config.schema (N := Spot)) :=
    ⟨rfl, rfl,
      .cons (Field.carries_defaulted (carries_list Channel.carries_read)) <|
      .cons (Field.carries_defaulted Chain.carries_read) <|
      .cons (Field.carries_defaulted Chain.carries_read) .nil⟩
  exact fun v s c => hschema.read

namespace Config

/-- What is written for a configuration is read as its norm. -/
theorem ofText_render (c : Config) : ofText .yaml (Yaml.render c.toValue) = .ok c.norm := by
  have hdocument := Reading.document_render c.laid_toValue
  have hread : Config.read (Spot.root ⟨Printer.node c.toValue, [], true⟩) = .ok c.norm :=
    carries_read c.toValue _ c.norm c.laid_toValue rfl (roundTrip.read_write c)
  simp [ofText, Format.read, readYaml, hdocument, hread, mapError, bind, Except.bind, pure,
    Except.pure]

/-- A canonical configuration comes back from its YAML as it was. -/
theorem yaml_round_trip (c : Config) (hc : c.Canonical) :
    ofText .yaml (Yaml.render c.toValue) = .ok c := by
  rw [ofText_render, norm_eq_self_iff.mpr hc]

/-- A configuration whose texts could all be taken for something else. -/
def misleading : Config where
  channels := [⟨"", true⟩, ⟨"~", false⟩, ⟨"null", false⟩, ⟨"007", true⟩, ⟨" it's ", false⟩]
  senderFilter :=
    ⟨[⟨[{ mode := .unknown "- mode: any", messageText := some "\n  two\n\nlines\n\n",
          priority := some (-1) }], .unrecognized "\u2028\x07"⟩]⟩
  receiverFilter := ⟨[⟨[], .unrecognized "true"⟩]⟩

theorem yaml_round_trip_misleading :
    misleading.Canonical ∧ ofText .yaml (Yaml.render misleading.toValue) = .ok misleading := by
  have hcanonical : misleading.Canonical := by
    decide
  exact ⟨hcanonical, yaml_round_trip misleading hcanonical⟩

end Config

end BroadcastFilter
