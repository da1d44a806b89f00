import BroadcastFilter.Config.Written
import BroadcastFilter.Message

/-!
How messages are written as values: every field, whether it was set or not.
-/

namespace BroadcastFilter

open Json

def User.toValue (u : User) : Value :=
  .object [("id", natural u.id), ("name", .string u.name), ("admin", .bool u.admin)]

def Message.toValue (m : Message) : Value :=
  .object
    [("sender", m.sender.toValue),
      ("receiver", m.receiver.toValue),
      ("title", .string m.title),
      ("text", .string m.text),
      ("extras", .object m.extras.entries),
      ("priority", integer m.priority),
      ("channel_name", .string m.channelName),
      ("outbound", .bool m.outbound)]

end BroadcastFilter
