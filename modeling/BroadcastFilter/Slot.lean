/-!
The slots of a match: the places where it can hold what it compares with. Each slot has the name
under which documents write it.
-/

namespace BroadcastFilter

inductive Slot where
  | channelName
  | userName
  | userId
  | isAdmin
  | messageTitle
  | messageText
  | messageExtra
  | priority
deriving DecidableEq, Inhabited

namespace Slot

/-- All slots, in the order in which a match lists them. -/
def all : List Slot :=
  [.channelName, .userName, .userId, .isAdmin, .messageTitle, .messageText, .messageExtra,
    .priority]

def name : Slot → String
  | .channelName => "channel_name"
  | .userName => "user_name"
  | .userId => "user_id"
  | .isAdmin => "is_admin"
  | .messageTitle => "message_title"
  | .messageText => "message_text"
  | .messageExtra => "message_extra"
  | .priority => "priority"

end Slot

end BroadcastFilter
