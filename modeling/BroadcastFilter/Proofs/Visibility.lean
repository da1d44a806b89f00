import BroadcastFilter.Proofs.Explanation

/-!
What rules can see of a message: the participant, the texts, the priority, the channel and the names
of the extras. Two messages that agree on these are decided alike, by chains and by filters, with
the same log and the same trace. The direction, the other side of the delivery and the values of the
extras have no part in it, nor has the order in which the names of the extras come.
-/

namespace BroadcastFilter

/-- The messages agree on everything that rules are about. -/
structure Message.Alike (a b : Message) : Prop where
  participant : a.participant = b.participant
  title : a.title = b.title
  text : a.text = b.text
  priority : a.priority = b.priority
  channelName : a.channelName = b.channelName
  extraKeys : ∀ key, key ∈ a.extraKeys ↔ key ∈ b.extraKeys

section Keys

variable {keys others : List String}

/-- Whether some key passes a test is a question about the set of keys. -/
theorem any_congr_of_mem (hkeys : ∀ key, key ∈ keys ↔ key ∈ others) (test : String → Bool) :
    keys.any test = others.any test := by
  rw [Bool.eq_iff_iff, List.any_eq_true, List.any_eq_true]
  simp only [hkeys]

theorem Search.matchesAnyKey_congr (search : Search) (regex : Bool) (pattern : String)
    (hkeys : ∀ key, key ∈ keys ↔ key ∈ others) :
    search.matchesAnyKey regex pattern keys = search.matchesAnyKey regex pattern others := by
  unfold matchesAnyKey
  cases regex with
  | false => exact any_congr_of_mem hkeys _
  | true =>
      cases search pattern with
      | none => rfl
      | some occursIn => exact any_congr_of_mem hkeys occursIn

end Keys

namespace Match

/-- Tries the match on a message whose extras have the names `keys`, in the order given. -/
def holdsAmong (search : Search) (keys : List String) (msg : Message) (m : Match) : Bool :=
  if m.mode = .messageExtra then
    (nonempty m.messageExtra).any fun pattern => search.matchesAnyKey m.regex pattern keys
  else m.holds search msg

theorem holdsAmong_extraKeys (search : Search) (msg : Message) (m : Match) :
    m.holdsAmong search msg.extraKeys msg = m.holds search msg := by
  unfold holdsAmong
  split
  next hmode => simp only [holds, hmode]
  next => rfl

theorem holdsAmong_congr {keys others : List String} (search : Search) (msg : Message) (m : Match)
    (hkeys : ∀ key, key ∈ keys ↔ key ∈ others) :
    m.holdsAmong search keys msg = m.holdsAmong search others msg := by
  unfold holdsAmong
  simp only [search.matchesAnyKey_congr m.regex _ hkeys]

/-- No mode looks at more of a message than is visible. -/
theorem holds_congr {a b : Message} (h : a.Alike b) (search : Search) (m : Match) :
    m.holds search a = m.holds search b := by
  obtain ⟨hparticipant, htitle, htext, hpriority, hchannel, hkeys⟩ := h
  unfold holds
  cases m.mode with
  | any => rfl
  | channelName => simp only [hchannel]
  | userName => simp only [hparticipant]
  | userId => simp only [hparticipant]
  | isAdmin => simp only [hparticipant]
  | messageTitle => simp only [htitle]
  | messageText => simp only [htext]
  | messageExtra => simp only [search.matchesAnyKey_congr m.regex _ hkeys]
  | priority => simp only [hpriority]
  | priorityAbove => simp only [hpriority]
  | priorityBelow => simp only [hpriority]
  | unknown tag => rfl

end Match

namespace Condition

/-- Tries the condition on a message whose extras have the names `keys`, in the order given. -/
def holdsAmong (keys : List String) (msg : Message) : Condition → Bool
  | .messageExtra p => p.acceptsAny keys
  | cond => cond.holds msg

theorem holdsAmong_extraKeys (msg : Message) (cond : Condition) :
    cond.holdsAmong msg.extraKeys msg = cond.holds msg := by
  cases cond <;> rfl

theorem holdsAmong_congr {keys others : List String} (msg : Message) (cond : Condition)
    (hkeys : ∀ key, key ∈ keys ↔ key ∈ others) :
    cond.holdsAmong keys msg = cond.holdsAmong others msg := by
  cases cond with
  | messageExtra p => exact any_congr_of_mem hkeys p.accepts
  | _ => rfl

theorem holds_congr {a b : Message} (h : a.Alike b) (cond : Condition) :
    cond.holds a = cond.holds b := by
  obtain ⟨hparticipant, htitle, htext, hpriority, hchannel, hkeys⟩ := h
  unfold holds
  cases cond with
  | any => rfl
  | channelName p => simp only [hchannel]
  | userName p => simp only [hparticipant]
  | userId id => simp only [hparticipant]
  | isAdmin admin => simp only [hparticipant]
  | messageTitle p => simp only [htitle]
  | messageText p => simp only [htext]
  | messageExtra p => exact any_congr_of_mem hkeys p.accepts
  | priority value => simp only [hpriority]
  | priorityAbove bound => simp only [hpriority]
  | priorityBelow bound => simp only [hpriority]

end Condition

namespace Chain

variable {search : Search} {default : Action}

/-- The decision to which given outcomes of the matches lead. -/
def decisionBy (holds : Match → Bool) (c : Chain) (default : Action) : Action :=
  firstAction (fun r => r.conditions.all holds) (·.action) default c.rules

/-- The trace to which given outcomes of the matches lead, from the rule at place `index` on. -/
def traceByFrom (holds : Match → Bool) (default : Action) (index : Nat) : List Rule → Trace
  | [] => ⟨default, [], true⟩
  | r :: rest =>
    let conditions := r.conditions.zipIdx.map fun (m, place) => ⟨place, m.mode, holds m⟩
    let step : Trace.Step := ⟨index, r.conditions.all holds, conditions⟩
    if r.conditions.all holds then ⟨r.action, [step], false⟩
    else
      let later := traceByFrom holds default (index + 1) rest
      { later with steps := step :: later.steps }

def traceBy (holds : Match → Bool) (c : Chain) (default : Action) : Trace :=
  traceByFrom holds default 0 c.rules

/-- A chain sees a message through the outcomes of its matches alone. -/
theorem value_evaluate_eq_decisionBy (search : Search) (c : Chain) (msg : Message)
    (default : Action) :
    (c.evaluate search msg default).value = c.decisionBy (·.holds search msg) default :=
  value_evaluate search c msg default

theorem value_traceFrom (msg : Message) (index : Nat) (rules : List Rule) :
    (traceFrom search msg default index rules).value =
      traceByFrom (·.holds search msg) default index rules := by
  induction rules generalizing index with
  | nil => rfl
  | cons r rest ih =>
      rw [value_traceFrom_cons, ih]
      rfl

theorem trace_eq_traceBy (search : Search) (c : Chain) (msg : Message) (default : Action) :
    c.trace search msg default = c.traceBy (·.holds search msg) default :=
  value_traceFrom msg 0 c.rules

/-- Not only the decision but also what is logged on the way to it depends on the outcomes alone. -/
theorem evaluateFrom_congr {a b : Message} (h : ∀ m : Match, m.holds search a = m.holds search b)
    (index : Nat) (rules : List Rule) :
    evaluateFrom search a default index rules = evaluateFrom search b default index rules := by
  induction rules generalizing index with
  | nil => rfl
  | cons r rest ih =>
      have happlies : r.appliesTo search a = r.appliesTo search b := by
        unfold Rule.appliesTo Match.allHold
        simp only [h]
      rw [evaluateFrom, evaluateFrom, happlies, ih]

end Chain

namespace Filter

/-- The decision to which given outcomes of the conditions lead. -/
def decisionBy (holds : Condition → Bool) (f : Filter) (default : Action) : Action :=
  firstAction (fun r => r.conditions.all holds) (·.action) default f.rules

theorem value_evaluate_eq_decisionBy (f : Filter) (msg : Message) (default : Action) :
    (f.evaluate msg default).value = f.decisionBy (·.holds msg) default :=
  value_evaluate f msg default

theorem evaluate_congr {a b : Message} (h : ∀ cond : Condition, cond.holds a = cond.holds b)
    (f : Filter) (default : Action) : f.evaluate a default = f.evaluate b default := by
  unfold evaluate Rule.appliesTo
  simp only [h]

end Filter

namespace Message

/-- No chain and no filter tells the messages apart: not by the decision, not by the log and not by
the trace. -/
structure DecidedAlike (search : Search) (a b : Message) : Prop where
  chain : ∀ (c : Chain) (default : Action),
    c.evaluate search a default = c.evaluate search b default
  trace : ∀ (c : Chain) (default : Action),
    c.trace search a default = c.trace search b default
  filter : ∀ (f : Filter) (default : Action), f.evaluate a default = f.evaluate b default

/-- In whatever order the names of the extras come, the message is decided as it is. -/
structure DecidedInAnyOrder (search : Search) (msg : Message) : Prop where
  chain : ∀ keys, (∀ key, key ∈ keys ↔ key ∈ msg.extraKeys) → ∀ (c : Chain) (default : Action),
    c.decisionBy (·.holdsAmong search keys msg) default = (c.evaluate search msg default).value
  trace : ∀ keys, (∀ key, key ∈ keys ↔ key ∈ msg.extraKeys) → ∀ (c : Chain) (default : Action),
    c.traceBy (·.holdsAmong search keys msg) default = c.trace search msg default
  filter : ∀ keys, (∀ key, key ∈ keys ↔ key ∈ msg.extraKeys) → ∀ (f : Filter) (default : Action),
    f.decisionBy (·.holdsAmong keys msg) default = (f.evaluate msg default).value

/-- The message with its two sides exchanged and its direction reversed. -/
def turned (msg : Message) : Message :=
  { msg with sender := msg.receiver, receiver := msg.sender, outbound := !msg.outbound }

theorem Alike.turned (msg : Message) : msg.Alike msg.turned where
  participant := by cases h : msg.outbound <;> simp [Message.participant, Message.turned, h]
  title := rfl
  text := rfl
  priority := rfl
  channelName := rfl
  extraKeys _ := Iff.rfl

/-- A message that comes in has the same look whoever receives it. -/
theorem Alike.withReceiver {msg : Message} (h : msg.outbound = false) (receiver : User) :
    msg.Alike { msg with receiver } where
  participant := by simp [Message.participant, h]
  title := rfl
  text := rfl
  priority := rfl
  channelName := rfl
  extraKeys _ := Iff.rfl

/-- A message that goes out has the same look whoever sends it. -/
theorem Alike.withSender {msg : Message} (h : msg.outbound = true) (sender : User) :
    msg.Alike { msg with sender } where
  participant := by simp [Message.participant, h]
  title := rfl
  text := rfl
  priority := rfl
  channelName := rfl
  extraKeys _ := Iff.rfl

theorem Alike.decided {a b : Message} (h : a.Alike b) (search : Search) :
    DecidedAlike search a b where
  chain c _ := Chain.evaluateFrom_congr (Match.holds_congr h search) 0 c.rules
  trace c default := by
    rw [Chain.trace_eq_traceBy, Chain.trace_eq_traceBy]
    simp only [Match.holds_congr h search]
  filter f default := Filter.evaluate_congr (Condition.holds_congr h) f default

theorem decidedInAnyOrder (search : Search) (msg : Message) : DecidedInAnyOrder search msg := by
  have hmatch (keys : List String) (hkeys : ∀ key, key ∈ keys ↔ key ∈ msg.extraKeys) :
      (fun m : Match => m.holdsAmong search keys msg) = fun m => m.holds search msg := by
    funext m
    rw [m.holdsAmong_congr search msg hkeys, m.holdsAmong_extraKeys]
  have hcondition (keys : List String) (hkeys : ∀ key, key ∈ keys ↔ key ∈ msg.extraKeys) :
      (fun cond : Condition => cond.holdsAmong keys msg) = fun cond => cond.holds msg := by
    funext cond
    rw [cond.holdsAmong_congr msg hkeys, cond.holdsAmong_extraKeys]
  constructor
  · intro keys hkeys c default
    rw [hmatch keys hkeys, Chain.value_evaluate_eq_decisionBy]
  · intro keys hkeys c default
    rw [hmatch keys hkeys, Chain.trace_eq_traceBy]
  · intro keys hkeys f default
    rw [hcondition keys hkeys, Filter.value_evaluate_eq_decisionBy]

/-- Messages that look alike are decided alike by every chain and every filter, with the same log
and the same trace. So it makes no difference to turn a message around, to change the receiver of
one that comes in, to change the sender of one that goes out, or to go through the names of the
extras in another order. -/
theorem decided_by_looks (search : Search) :
    (∀ a b : Message, a.Alike b → DecidedAlike search a b) ∧
    (∀ msg : Message, DecidedAlike search msg msg.turned) ∧
    (∀ (msg : Message) (receiver : User), msg.outbound = false →
      DecidedAlike search msg { msg with receiver }) ∧
    (∀ (msg : Message) (sender : User), msg.outbound = true →
      DecidedAlike search msg { msg with sender }) ∧
    ∀ msg : Message, DecidedInAnyOrder search msg := by
  refine ⟨?_, ?_, ?_, ?_, ?_⟩
  · intro a b h
    exact h.decided search
  · intro msg
    exact (Alike.turned msg).decided search
  · intro msg receiver hin
    exact (Alike.withReceiver hin receiver).decided search
  · intro msg sender hout
    exact (Alike.withSender hout sender).decided search
  · exact decidedInAnyOrder search

/-- What a server says to a user. -/
def fromServer : Message :=
  { sender := { id := 7, name := "my_server" }, receiver := { id := 1, name := "me" },
    text := "[INFO] up", extras := (∅ : Dictionary Json.Value).insert "host" (.string "a") }

/-- The same text from another user to that server, the extra with another value. -/
def toServer : Message :=
  { sender := { id := 2, name := "you", admin := true },
    receiver := { id := 7, name := "my_server" }, text := "[INFO] up", outbound := true,
    extras := (∅ : Dictionary Json.Value).insert "host" .null }

/-- The server is the participant of both messages, so the sender filter of a new user rejects both
with one trace. -/
theorem decided_by_looks_server :
    fromServer.Alike toServer ∧
      (Config.starter.senderFilter.evaluate Regex.search toServer .accept).value = .reject ∧
      Config.starter.senderFilter.trace Regex.search fromServer .accept =
        Config.starter.senderFilter.trace Regex.search toServer .accept := by
  have halike : fromServer.Alike toServer := ⟨rfl, rfl, rfl, rfl, rfl, fun _ => Iff.rfl⟩
  obtain ⟨hdecided, _⟩ := decided_by_looks Regex.search
  have hboth := hdecided fromServer toServer halike
  refine ⟨halike, ?_, hboth.trace _ _⟩
  rw [← hboth.chain]
  decide +kernel

end Message

end BroadcastFilter
