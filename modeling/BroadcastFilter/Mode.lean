import BroadcastFilter.Slot

/-!
Modes: which aspect of a message a match looks at. A mode is written as a tag. A tag that is not
known is a mode of its own, so that a check can report it; nothing matches in that mode.
-/

namespace BroadcastFilter

inductive Mode where
  | any
  | channelName
  | userName
  | userId
  | isAdmin
  | messageTitle
  | messageText
  | messageExtra
  | priority
  | priorityAbove
  | priorityBelow
  | unknown (tag : String)
deriving DecidableEq, Inhabited

namespace Mode

/-- The modes that have a tag of their own. -/
def known : List Mode :=
  [.any, .channelName, .userName, .userId, .isAdmin, .messageTitle, .messageText, .messageExtra,
    .priority, .priorityAbove, .priorityBelow]

def tag : Mode → String
  | .any => "any"
  | .channelName => "channel_name"
  | .userName => "user_name"
  | .userId => "user_id"
  | .isAdmin => "is_admin"
  | .messageTitle => "message_title"
  | .messageText => "message_text"
  | .messageExtra => "message_extra"
  | .priority => "message_priority"
  | .priorityAbove => "message_priority_gt"
  | .priorityBelow => "message_priority_lt"
  | .unknown tag => tag

/-- The mode that a tag names. -/
def ofTag (tag : String) : Mode := (known.find? fun m => m.tag == tag).getD (.unknown tag)

def isKnown : Mode → Bool
  | .unknown _ => false
  | _ => true

/-- The slot that a match of this mode compares with. -/
def slot? : Mode → Option Slot
  | .any => none
  | .channelName => some .channelName
  | .userName => some .userName
  | .userId => some .userId
  | .isAdmin => some .isAdmin
  | .messageTitle => some .messageTitle
  | .messageText => some .messageText
  | .messageExtra => some .messageExtra
  | .priority => some .priority
  | .priorityAbove => some .priority
  | .priorityBelow => some .priority
  | .unknown _ => none

end Mode

end BroadcastFilter
