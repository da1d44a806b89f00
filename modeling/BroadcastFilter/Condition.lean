import BroadcastFilter.Match

/-!
Conditions: matches made ready. A condition holds what its mode compares with and nothing else.
-/

namespace BroadcastFilter

inductive Condition where
  | any
  | channelName (pattern : Pattern)
  | userName (pattern : Pattern)
  | userId (id : UInt64)
  | isAdmin (admin : Bool)
  | messageTitle (pattern : Pattern)
  | messageText (pattern : Pattern)
  | messageExtra (pattern : Pattern)
  | priority (value : Int64)
  | priorityAbove (bound : Int64)
  | priorityBelow (bound : Int64)

namespace Condition

/-- The value of a slot that has to be there. -/
def demand {A : Type} (slot : Slot) : Option A → Except Match.Fault A
  | some a => .ok a
  | none => .error (.missing slot)

/-- The pattern in a text slot that has to be there. -/
def demandPattern (search : Search) (m : Match) (slot : Slot) (value : Option String) :
    Logged (Except Match.Fault Pattern) :=
  match demand slot value with
  | .ok text => do return .ok (← Pattern.ofText search m.regex text)
  | .error fault => return .error fault

/-- The condition of a match that has been checked. Each mode still says what it lacks. -/
def ofChecked (search : Search) (m : Match) : Logged (Except Match.Fault Condition) :=
  let pattern (slot : Slot) (value : Option String) (make : Pattern → Condition) :
      Logged (Except Match.Fault Condition) := do
    return (← demandPattern search m slot value).map make
  match m.mode with
  | .any => return .ok .any
  | .channelName => pattern .channelName m.channelName .channelName
  | .userName => pattern .userName m.userName .userName
  | .userId => return (demand .userId m.userId).map .userId
  | .isAdmin => return (demand .isAdmin m.isAdmin).map .isAdmin
  | .messageTitle => pattern .messageTitle m.messageTitle .messageTitle
  | .messageText => pattern .messageText m.messageText .messageText
  | .messageExtra => pattern .messageExtra m.messageExtra .messageExtra
  | .priority => return (demand .priority m.priority).map .priority
  | .priorityAbove => return (demand .priority m.priority).map .priorityAbove
  | .priorityBelow => return (demand .priority m.priority).map .priorityBelow
  | .unknown tag => return .error (.unsupported tag)

/-- Checks a match and makes it ready. -/
def compile (search : Search) (m : Match) : Logged (Except Match.Fault Condition) :=
  match m.check with
  | .ok () => ofChecked search m
  | .error fault => return .error fault

def mode : Condition → Mode
  | .any => .any
  | .channelName _ => .channelName
  | .userName _ => .userName
  | .userId _ => .userId
  | .isAdmin _ => .isAdmin
  | .messageTitle _ => .messageTitle
  | .messageText _ => .messageText
  | .messageExtra _ => .messageExtra
  | .priority _ => .priority
  | .priorityAbove _ => .priorityAbove
  | .priorityBelow _ => .priorityBelow

def holds (c : Condition) (msg : Message) : Bool :=
  let who := msg.participant
  match c with
  | .any => true
  | .channelName p => p.accepts msg.channelName
  | .userName p => p.accepts who.name
  | .userId id => id == who.id
  | .isAdmin admin => admin == who.admin
  | .messageTitle p => p.accepts msg.title
  | .messageText p => p.accepts msg.text
  | .messageExtra p => p.acceptsAny msg.extraKeys
  | .priority value => msg.priority == value
  | .priorityAbove bound => bound < msg.priority
  | .priorityBelow bound => msg.priority < bound

def toText : Condition → String
  | .any => "any"
  | .channelName p => "channel_name " ++ p.toText
  | .userName p => "user_name " ++ p.toText
  | .userId id => "user_id " ++ toString id.toNat
  | .isAdmin admin => "is_admin " ++ (if admin then "true" else "false")
  | .messageTitle p => "message_title " ++ p.toText
  | .messageText p => "message_text " ++ p.toText
  | .messageExtra p => "message_extra " ++ p.toText
  | .priority value => "priority == " ++ toString value.toInt
  | .priorityAbove bound => "priority > " ++ toString bound.toInt
  | .priorityBelow bound => "priority < " ++ toString bound.toInt

end Condition

end BroadcastFilter
