import BroadcastFilter.Config.Schema

/-!
How messages are read from a document. Every field may be left out, and a name that is not a field's
is passed over together with its value.
-/

namespace BroadcastFilter

open Decode

variable {N : Type} [Source N]

def User.schema : Schema N User where
  name := "UserContext"
  strict := false
  blank := {}
  fields :=
    [.defaulted "id" Source.natural (·.id) fun v u => { u with id := v },
      .defaulted "name" Source.text (·.name) fun v u => { u with name := v },
      .defaulted "admin" Source.flag (·.admin) fun v u => { u with admin := v }]

def User.read (n : N) : Except Error User := User.schema.read n

def Message.schema : Schema N Message where
  name := "Message"
  strict := false
  blank := {}
  fields :=
    [.defaulted "sender" User.read (·.sender) fun v m => { m with sender := v },
      .defaulted "receiver" User.read (·.receiver) fun v m => { m with receiver := v },
      .defaulted "title" Source.text (·.title) fun v m => { m with title := v },
      .defaulted "text" Source.text (·.text) fun v m => { m with text := v },
      .defaulted "extras" Source.values (·.extras) fun v m => { m with extras := v },
      .defaulted "priority" Source.integer (·.priority) fun v m => { m with priority := v },
      .defaulted "channel_name" Source.text (·.channelName) fun v m => { m with channelName := v },
      .defaulted "outbound" Source.flag (·.outbound) fun v m => { m with outbound := v }]

def Message.read (n : N) : Except Error Message := Message.schema.read n

end BroadcastFilter
