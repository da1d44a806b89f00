import BroadcastFilter.Proofs.Decision

/-!
What a whole configuration decides once it has been made ready. Making it ready fails exactly where
its check fails, and with the same error; after that each message is decided by the chain of its
direction, and no word other than the two known actions comes out.
-/

namespace BroadcastFilter

theorem Action.isRecognized_iff {a : Action} :
    a.isRecognized = true ↔ a = .accept ∨ a = .reject := by
  cases a <;> simp [isRecognized]

/-- On a well-formed chain nothing but the default can bring in an unknown action. -/
theorem Chain.WellFormed.isRecognized_evaluate {c : Chain} (h : c.WellFormed) (search : Search)
    (msg : Message) {default : Action} (hdefault : default.isRecognized = true) :
    (c.evaluate search msg default).value.isRecognized = true := by
  rw [Chain.value_evaluate]
  exact firstAction_induction (p := fun a => a.isRecognized = true) hdefault
    fun r hr => (h r hr).action

namespace Config

theorem value_validate (c : Config) : c.validate.value = c.check := by
  unfold validate
  cases c.check <;> rfl

theorem wellFormed_of_check {c : Config} (h : c.check = .ok ()) :
    c.senderFilter.WellFormed ∧ c.receiverFilter.WellFormed := by
  cases hsender : c.senderFilter.check with
  | error faults => simp [check, hsender, mapError, bind, Except.bind] at h
  | ok _ =>
      cases hreceiver : c.receiverFilter.check with
      | error faults => simp [check, hsender, hreceiver, mapError, bind, Except.bind] at h
      | ok _ => exact ⟨Chain.check_eq_ok_iff.mp hsender, Chain.check_eq_ok_iff.mp hreceiver⟩

/-- A configuration at fault is rejected before a chain is made ready. -/
theorem compile_of_error (search : Search) {c : Config} {e : Error} (h : c.check = .error e) :
    c.compile search = ⟨.error e, [.configRejected e.toText]⟩ := by
  simp only [compile, validate, h, bind, pure, Logged.tell, List.append_nil]

/-- A configuration without fault is made ready as its two chains are, the sender's first. -/
theorem compile_of_check (search : Search) {c : Config} (h : c.check = .ok ()) :
    ∃ sender receiver,
      c.compile search = ⟨.ok ⟨c.channels, sender, receiver⟩,
        (Filter.compile search c.senderFilter).events ++
          (Filter.compile search c.receiverFilter).events⟩ ∧
      List.Forall₂ (Filter.Rule.Carries search) c.senderFilter.rules sender.rules ∧
      List.Forall₂ (Filter.Rule.Carries search) c.receiverFilter.rules receiver.rules := by
  obtain ⟨hsender, hreceiver⟩ := wellFormed_of_check h
  obtain ⟨sender, hs, hscarries⟩ := Filter.compile_of_wellFormed search hsender
  obtain ⟨receiver, hr, hrcarries⟩ := Filter.compile_of_wellFormed search hreceiver
  refine ⟨sender, receiver, ?_, hscarries, hrcarries⟩
  simp only [compile, validate, h, hs, hr, bind, pure, List.append_nil, List.nil_append]

theorem value_compile_eq_error_iff {search : Search} {c : Config} {e : Error} :
    (c.compile search).value = .error e ↔ c.validate.value = .error e := by
  rw [value_validate]
  cases hcheck : c.check with
  | error e' => simp [compile_of_error search hcheck]
  | ok _ =>
      obtain ⟨sender, receiver, hcompile, _⟩ := compile_of_check search hcheck
      simp [hcompile]

theorem value_compile_eq_ok {search : Search} {c : Config} {ready : ReadyConfig}
    (h : (c.compile search).value = .ok ready) :
    c.check = .ok () ∧ ready.channels = c.channels ∧
      List.Forall₂ (Filter.Rule.Carries search) c.senderFilter.rules ready.sender.rules ∧
      List.Forall₂ (Filter.Rule.Carries search) c.receiverFilter.rules ready.receiver.rules := by
  cases hcheck : c.check with
  | error e => simp [compile_of_error search hcheck] at h
  | ok _ =>
      obtain ⟨sender, receiver, hcompile, hsender, hreceiver⟩ := compile_of_check search hcheck
      have hready : ⟨c.channels, sender, receiver⟩ = ready := by simpa [hcompile] using h
      subst hready
      exact ⟨rfl, rfl, hsender, hreceiver⟩

end Config

namespace ReadyConfig

theorem admitsInbound_iff (c : ReadyConfig) (msg : Message) :
    (c.admitsInbound msg).value = true ↔ (c.sender.evaluate msg .accept).value = .accept :=
  beq_iff_eq

theorem admitsOutbound_iff (c : ReadyConfig) (msg : Message) :
    (c.admitsOutbound msg).value = true ↔ (c.receiver.evaluate msg .accept).value = .accept :=
  beq_iff_eq

end ReadyConfig

/-- A configuration can be made ready exactly when its check passes, and fails with the error of the
check otherwise. Made ready, it decides each message as the chain of the message's direction does
with the default to accept, and always accepts or rejects. The two questions about admission are
each tied to one chain, whatever the direction of the message, and the one of the message's own
direction tells the decision. -/
theorem Config.compile_refines (search : Search) (c : Config) :
    ((∃ ready, (c.compile search).value = .ok ready) ↔ c.validate.value = .ok ()) ∧
    (∀ e, (c.compile search).value = .error e ↔ c.validate.value = .error e) ∧
    ∀ ready, (c.compile search).value = .ok ready →
      ready.channels = c.channels ∧
      ∀ msg,
        (ready.decide msg).value = ((c.chainFor msg).evaluate search msg .accept).value ∧
        ((ready.decide msg).value = .accept ∨ (ready.decide msg).value = .reject) ∧
        ((ready.admitsInbound msg).value = true ↔
          (c.senderFilter.evaluate search msg .accept).value = .accept) ∧
        ((ready.admitsOutbound msg).value = true ↔
          (c.receiverFilter.evaluate search msg .accept).value = .accept) ∧
        ((ready.decide msg).value = .accept ↔
          (if msg.outbound then ready.admitsOutbound msg
            else ready.admitsInbound msg).value = true) := by
  refine ⟨?_, fun e => Config.value_compile_eq_error_iff, ?_⟩
  · rw [Config.value_validate]
    constructor
    · rintro ⟨ready, hready⟩
      exact (Config.value_compile_eq_ok hready).1
    · intro hcheck
      obtain ⟨sender, receiver, hcompile, _⟩ := Config.compile_of_check search hcheck
      exact ⟨_, by rw [hcompile]⟩
  · intro ready hready
    obtain ⟨hcheck, hchannels, hsender, hreceiver⟩ := Config.value_compile_eq_ok hready
    obtain ⟨hsenderFormed, hreceiverFormed⟩ := Config.wellFormed_of_check hcheck
    refine ⟨hchannels, fun msg => ?_⟩
    have hin := Filter.value_evaluate_of_carries hsender msg .accept
    have hout := Filter.value_evaluate_of_carries hreceiver msg .accept
    have hdecide : (ready.decide msg).value =
        ((c.chainFor msg).evaluate search msg .accept).value := by
      unfold ReadyConfig.decide ReadyConfig.filterFor Config.chainFor
      cases msg.outbound with
      | false => exact hin
      | true => exact hout
    have hformed : (c.chainFor msg).WellFormed := by
      unfold Config.chainFor
      split
      · exact hreceiverFormed
      · exact hsenderFormed
    -- The default is an action, so nothing but accept and reject can come out of the chain.
    refine ⟨hdecide, ?_, ?_, ?_, ?_⟩
    · rw [hdecide]
      exact Action.isRecognized_iff.mp (hformed.isRecognized_evaluate search msg rfl)
    · rw [ready.admitsInbound_iff, hin]
    · rw [ready.admitsOutbound_iff, hout]
    · cases houtbound : msg.outbound with
      | false =>
          simp only [ReadyConfig.decide, ReadyConfig.filterFor, houtbound]
          exact (ready.admitsInbound_iff msg).symm
      | true =>
          simp only [ReadyConfig.decide, ReadyConfig.filterFor, houtbound]
          exact (ready.admitsOutbound_iff msg).symm

/-- The configuration of a new user can be made ready. It then hides the chatter of the server when
that comes in, and lets the same text go out. -/
theorem Config.compile_refines_starter :
    ∃ ready, (Config.starter.compile Regex.search).value = .ok ready ∧
      (ready.decide { sender := { name := "my_server" }, text := "[INFO] up" }).value = .reject ∧
      (ready.decide
        { sender := { name := "my_server" }, text := "[INFO] up", outbound := true }).value =
          .accept := by
  obtain ⟨hready, _, hdecides⟩ := Config.compile_refines Regex.search Config.starter
  have hcheck : Config.starter.validate.value = .ok () := by
    rw [Config.value_validate]
    decide
  obtain ⟨ready, hcompile⟩ := hready.mpr hcheck
  obtain ⟨_, hmessages⟩ := hdecides ready hcompile
  refine ⟨ready, hcompile, ?_, ?_⟩
  · rw [(hmessages _).1]
    decide +kernel
  · rw [(hmessages _).1]
    decide +kernel

end BroadcastFilter
