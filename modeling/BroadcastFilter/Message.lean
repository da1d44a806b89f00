import BroadcastFilter.Json.Value

/-!
Messages: what a chain of rules decides on. A message carries both sides of one delivery. Rules
about a user look at the side that is not the owner of the rules: at the sender of a message that
comes in and at the receiver of one that goes out.
-/

namespace BroadcastFilter

/-- One side of a delivery. -/
structure User where
  id : UInt64 := 0
  name : String := ""
  admin : Bool := false
deriving DecidableEq, Inhabited

structure Message where
  sender : User := {}
  receiver : User := {}
  title : String := ""
  text : String := ""
  /-- Named values that come with the message. Rules look at the names alone. -/
  extras : Dictionary Json.Value := ∅
  priority : Int64 := 0
  channelName : String := ""
  outbound : Bool := false
deriving Inhabited

namespace Message

/-- The side that rules about a user look at. -/
def participant (m : Message) : User := if m.outbound then m.receiver else m.sender

def extraKeys (m : Message) : List String := m.extras.keys

/-- The message in which nothing has been set. -/
def isBlank (m : Message) : Bool :=
  m.sender == {} && m.receiver == {} && m.title == "" && m.text == "" && m.extras.isEmpty &&
    m.priority == 0 && m.channelName == "" && !m.outbound

end Message

end BroadcastFilter
