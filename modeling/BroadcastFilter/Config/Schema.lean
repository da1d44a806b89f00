import BroadcastFilter.Config
import BroadcastFilter.Decode.Schema

/-!
How matches, rules, chains, channels and configurations are read from a document. All these records
are strict: a name that is not theirs is an error.
-/

namespace BroadcastFilter

open Decode

namespace Decode.Field

variable {N R A : Type}

/-- A field that has to be there. -/
def needed (name : String) (readValue : N → Except Error A) (get : R → A) (put : A → R → R)
    (get_put : ∀ a r, get (put a r) = a := by intros; rfl) : Field N R :=
  ⟨name, true, A, readValue, get, put, get_put⟩

/-- A field with a default. -/
def defaulted (name : String) (readValue : N → Except Error A) (get : R → A) (put : A → R → R)
    (get_put : ∀ a r, get (put a r) = a := by intros; rfl) : Field N R :=
  ⟨name, false, A, readValue, get, put, get_put⟩

end Decode.Field

variable {N : Type} [Source N]

def Mode.read (n : N) : Except Error Mode := do return Mode.ofTag (← Source.text n)

def Action.read (n : N) : Except Error Action := do return Action.ofWord (← Source.text n)

def Match.schema : Schema N Match where
  name := "Match"
  strict := true
  blank := { mode := .any }
  fields :=
    [.needed "mode" Mode.read (·.mode) fun v m => { m with mode := v },
      .defaulted "regex" Source.flag (·.regex) fun v m => { m with regex := v },
      .defaulted "channel_name" (optionally Source.text) (·.channelName)
        fun v m => { m with channelName := v },
      .defaulted "user_name" (optionally Source.text) (·.userName)
        fun v m => { m with userName := v },
      .defaulted "user_id" (optionally Source.natural) (·.userId) fun v m => { m with userId := v },
      .defaulted "is_admin" (optionally Source.flag) (·.isAdmin) fun v m => { m with isAdmin := v },
      .defaulted "message_title" (optionally Source.text) (·.messageTitle)
        fun v m => { m with messageTitle := v },
      .defaulted "message_text" (optionally Source.text) (·.messageText)
        fun v m => { m with messageText := v },
      .defaulted "message_extra" (optionally Source.text) (·.messageExtra)
        fun v m => { m with messageExtra := v },
      .defaulted "priority" (optionally Source.integer) (·.priority)
        fun v m => { m with priority := v }]

def Match.read (n : N) : Except Error Match := Match.schema.read n

/-- The conditions of a rule. -/
def Match.readAll (n : N) : Except Error (List Match) := listOf Match.read n

def Rule.schema : Schema N Rule where
  name := "Rule"
  strict := true
  blank := ⟨[], .accept⟩
  fields :=
    [.needed "match" Match.readAll (·.conditions) fun v r => { r with conditions := v },
      .needed "action" Action.read (·.action) fun v r => { r with action := v }]

def Rule.read (n : N) : Except Error Rule := Rule.schema.read n

def Chain.read (n : N) : Except Error Chain := do return ⟨← listOf Rule.read n⟩

def Channel.schema : Schema N Channel where
  name := "ChannelDef"
  strict := true
  blank := ⟨"", false⟩
  fields :=
    [.needed "name" Source.text (·.name) fun v c => { c with name := v },
      .defaulted "public" Source.flag (·.isPublic) fun v c => { c with isPublic := v }]

def Channel.read (n : N) : Except Error Channel := Channel.schema.read n

def Config.schema : Schema N Config where
  name := "FilterConfig"
  strict := true
  blank := {}
  fields :=
    [.defaulted "channels" (listOf Channel.read) (·.channels) fun v c => { c with channels := v },
      .defaulted "sender_filter" Chain.read (·.senderFilter)
        fun v c => { c with senderFilter := v },
      .defaulted "receiver_filter" Chain.read (·.receiverFilter)
        fun v c => { c with receiverFilter := v }]

def Config.read (n : N) : Except Decode.Error Config := Config.schema.read n

end BroadcastFilter
