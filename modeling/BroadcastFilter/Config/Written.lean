import BroadcastFilter.Config
import BroadcastFilter.Json.Value

/-!
How matches, rules, chains, channels and configurations are written as values. A slot that holds
nothing is left out, and so is the mark of regular expressions if it is not set; an empty text and a
zero are written.
-/

namespace BroadcastFilter

open Json

def natural (n : UInt64) : Value := .number (.integer n.toNat)

def integer (n : Int64) : Value := .number (.integer n.toInt)

def Mode.toValue (m : Mode) : Value := .string m.tag

def Action.toValue (a : Action) : Value := .string a.word

/-- An entry that is left out without a value. -/
def optionalEntry {A : Type} (name : String) (write : A → Value) : Option A → List (String × Value)
  | some a => [(name, write a)]
  | none => []

def Match.toValue (m : Match) : Value :=
  .object
    (("mode", m.mode.toValue) ::
      ((if m.regex then [("regex", .bool true)] else []) ++
        optionalEntry "channel_name" .string m.channelName ++
        optionalEntry "user_name" .string m.userName ++
        optionalEntry "user_id" natural m.userId ++
        optionalEntry "is_admin" .bool m.isAdmin ++
        optionalEntry "message_title" .string m.messageTitle ++
        optionalEntry "message_text" .string m.messageText ++
        optionalEntry "message_extra" .string m.messageExtra ++
        optionalEntry "priority" integer m.priority))

def Match.listToValue (ms : List Match) : Value := .array (ms.map Match.toValue)

def Rule.toValue (r : Rule) : Value :=
  .object [("match", Match.listToValue r.conditions), ("action", r.action.toValue)]

def Chain.toValue (c : Chain) : Value := .array (c.rules.map Rule.toValue)

def Channel.toValue (c : Channel) : Value :=
  .object [("name", .string c.name), ("public", .bool c.isPublic)]

def Config.toValue (c : Config) : Value :=
  .object
    [("channels", .array (c.channels.map Channel.toValue)),
      ("sender_filter", c.senderFilter.toValue),
      ("receiver_filter", c.receiverFilter.toValue)]

end BroadcastFilter
