import BroadcastFilter.Message
import BroadcastFilter.Mode
import BroadcastFilter.Pattern

/-!
Matches: one condition of a rule as it is written. A match is well formed if exactly the slot of its
mode holds something. A match that is not well formed can still be tried on a message.
-/

namespace BroadcastFilter

structure Match where
  mode : Mode
  /-- Text slots hold regular expressions. -/
  regex : Bool := false
  channelName : Option String := none
  userName : Option String := none
  userId : Option UInt64 := none
  isAdmin : Option Bool := none
  messageTitle : Option String := none
  messageText : Option String := none
  messageExtra : Option String := none
  priority : Option Int64 := none
deriving DecidableEq, Inhabited

namespace Match

/-- Why a match is not well formed. -/
inductive Fault where
  | missing (slot : Slot)
  | extra (slots : List Slot)
  | unsupported (tag : String)
deriving DecidableEq, Inhabited

def Fault.toText : Fault → String
  | .missing slot => "missing parameter " ++ slot.name
  | .extra slots => "extra parameter(s): " ++ ", ".intercalate (slots.map Slot.name)
  | .unsupported tag => "unsupported mode: " ++ tag

/-- A text slot that holds something; an empty text is nothing. -/
def nonempty (slot : Option String) : Option String := slot.filter (· ≠ "")

/-- The slot holds something: a text that is not empty, an id that is not zero, or any flag or
priority. -/
def has (m : Match) : Slot → Bool
  | .channelName => (nonempty m.channelName).isSome
  | .userName => (nonempty m.userName).isSome
  | .userId => m.userId.any (· ≠ 0)
  | .isAdmin => m.isAdmin.isSome
  | .messageTitle => (nonempty m.messageTitle).isSome
  | .messageText => (nonempty m.messageText).isSome
  | .messageExtra => (nonempty m.messageExtra).isSome
  | .priority => m.priority.isSome

/-- The slots that hold something. -/
def present (m : Match) : List Slot := Slot.all.filter m.has

/-- The slots that hold something although the mode does not look at them. -/
def extras (m : Match) : List Slot := m.present.filter fun s => some s ≠ m.mode.slot?

def check (m : Match) : Except Fault Unit :=
  if !m.mode.isKnown then .error (.unsupported m.mode.tag)
  else match m.mode.slot?.filter fun s => !m.has s with
    | some slot => .error (.missing slot)
    | none => if m.extras = [] then .ok () else .error (.extra m.extras)

def matchesText (search : Search) (m : Match) (slot : Option String) (subject : String) : Bool :=
  (nonempty slot).any fun pattern => search.matchesText m.regex pattern subject

/-- Tries the match on a message. -/
def holds (search : Search) (m : Match) (msg : Message) : Bool :=
  let who := msg.participant
  match m.mode with
  | .any => true
  | .channelName => m.matchesText search m.channelName msg.channelName
  | .userName => m.matchesText search m.userName who.name
  | .userId => m.userId.any fun id => id ≠ 0 ∧ id = who.id
  | .isAdmin => m.isAdmin.any (· == who.admin)
  | .messageTitle => m.matchesText search m.messageTitle msg.title
  | .messageText => m.matchesText search m.messageText msg.text
  | .messageExtra =>
    (nonempty m.messageExtra).any fun pattern => search.matchesAnyKey m.regex pattern msg.extraKeys
  | .priority => m.priority.any (· == msg.priority)
  | .priorityAbove => m.priority.any fun bound => bound < msg.priority
  | .priorityBelow => m.priority.any fun bound => msg.priority < bound
  | .unknown _ => false

end Match

end BroadcastFilter
