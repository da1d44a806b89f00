import BroadcastFilter.Decode.Error
import BroadcastFilter.Filter

/-!
Configurations: what one user edits. A configuration names the channels on which the user
broadcasts, and holds one chain for the broadcasts that come in and one for those that go out.
-/

namespace BroadcastFilter

/-- A channel of the user, and whether others may see it. -/
structure Channel where
  name : String
  isPublic : Bool := false
deriving DecidableEq, Inhabited

structure Config where
  channels : List Channel := []
  /-- Decides on what comes in; its rules look at the sender. -/
  senderFilter : Chain := ⟨[]⟩
  /-- Decides on what goes out; its rules look at the receiver. -/
  receiverFilter : Chain := ⟨[]⟩
deriving DecidableEq, Inhabited

/-- Why a file could not be read as text. -/
inductive ReadFault where
  | notFound
  | notDirectory
  | isDirectory
  | nameTooLong
  | zeroInName
  | denied
  | notText
  /-- Any other fault, in the words of the system. -/
  | other (text : String)
deriving DecidableEq, Inhabited

def ReadFault.toText : ReadFault → String
  | .notFound => "No such file or directory (os error 2)"
  | .notDirectory => "Not a directory (os error 20)"
  | .isDirectory => "Is a directory (os error 21)"
  | .nameTooLong => "File name too long (os error 36)"
  | .zeroInName => "file name contained an unexpected NUL byte"
  | .denied => "Permission denied (os error 13)"
  | .notText => "stream did not contain valid UTF-8"
  | .other text => text

/-- The fault with a number of the operating system and its words for it. -/
def ReadFault.ofSystem (number : Nat) (words : String) : ReadFault :=
  match number with
  | 2 => .notFound
  | 13 => .denied
  | 20 => .notDirectory
  | 21 => .isDirectory
  | 36 => .nameTooLong
  | _ => .other (words ++ " (os error " ++ toString number ++ ")")

namespace Config

/-- Why there is no configuration to work with. -/
inductive Error where
  | unreadable (path : String) (fault : ReadFault)
  | yaml (error : Decode.Error)
  | json (error : Decode.Error)
  | senderFilter (faults : ChainFaults)
  | receiverFilter (faults : ChainFaults)
  | duplicateChannel (name : String)
deriving DecidableEq, Inhabited

def Error.toText : Error → String
  | .unreadable path fault => "cannot read " ++ path ++ ": " ++ fault.toText
  | .yaml error => "invalid YAML: " ++ error.toText
  | .json error => "invalid JSON: " ++ error.toText
  | .senderFilter faults => "sender_filter: " ++ faults.toText
  | .receiverFilter faults => "receiver_filter: " ++ faults.toText
  | .duplicateChannel name => "channel name " ++ name ++ " is duplicated"

/-- The first name that stands earlier in the list too; `seen` stand before the list. -/
def firstRepeated (seen : List String) : List String → Option String
  | [] => none
  | name :: rest => if seen.contains name then some name else firstRepeated (name :: seen) rest

def mapError {A E F : Type} (f : E → F) : Except E A → Except F A
  | .ok a => .ok a
  | .error e => .error (f e)

/-- Both chains are well formed and no two channels share a name. The first part at fault counts. -/
def check (c : Config) : Except Error Unit := do
  mapError .senderFilter c.senderFilter.check
  mapError .receiverFilter c.receiverFilter.check
  match firstRepeated [] (c.channels.map (·.name)) with
  | some name => .error (.duplicateChannel name)
  | none => .ok ()

/-- Checks a configuration and logs why it is rejected. -/
def validate (c : Config) : Logged (Except Error Unit) :=
  match c.check with
  | .ok () => return .ok ()
  | .error e => do
    Logged.tell (.configRejected e.toText)
    return .error e

/-- What happens to a message on which no rule decides. -/
def defaultAction : Action := .accept

/-- The chain that decides on a message, by its direction. -/
def chainFor (c : Config) (msg : Message) : Chain :=
  if msg.outbound then c.receiverFilter else c.senderFilter

def publicChannels (c : Config) : List Channel := c.channels.filter (·.isPublic)

/-- The configuration that a new user starts from: one private channel, chatter of a server and one
sender hidden, one receiver left out, and everything else let through. -/
def starter : Config where
  channels := [⟨"example", false⟩]
  senderFilter :=
    ⟨[⟨[{ mode := .userName, userName := some "my_server" },
        { mode := .messageText, regex := true,
          messageText := some "^\\[(INFO|DEBUG)\\]" }], .reject⟩,
      ⟨[{ mode := .userName,
          userName := some "some_one_i_dont_want_to_see_broadcast_from" }], .reject⟩,
      ⟨[{ mode := .any }], .accept⟩]⟩
  receiverFilter :=
    ⟨[⟨[{ mode := .userName,
          userName := some "some_one_i_dont_want_to_send_broadcast_to" }], .reject⟩,
      ⟨[{ mode := .any }], .accept⟩]⟩

end Config

/-- A configuration that has been checked, both chains made ready. -/
structure ReadyConfig where
  channels : List Channel
  sender : Filter
  receiver : Filter

namespace ReadyConfig

/-- The filter that decides on a message, by its direction. -/
def filterFor (c : ReadyConfig) (msg : Message) : Filter :=
  if msg.outbound then c.receiver else c.sender

def decide (c : ReadyConfig) (msg : Message) : Logged Action :=
  (c.filterFor msg).evaluate msg Config.defaultAction

/-- The user wants to see a message that comes in. -/
def admitsInbound (c : ReadyConfig) (msg : Message) : Logged Bool := do
  return (← c.sender.evaluate msg Config.defaultAction) == .accept

/-- A message of the user is to reach its receiver. -/
def admitsOutbound (c : ReadyConfig) (msg : Message) : Logged Bool := do
  return (← c.receiver.evaluate msg Config.defaultAction) == .accept

end ReadyConfig

/-- Checks a configuration and makes both chains ready. -/
def Config.compile (search : Search) (c : Config) : Logged (Except Config.Error ReadyConfig) := do
  match ← c.validate with
  | .error e => return .error e
  | .ok () =>
    match ← Filter.compile search c.senderFilter with
    | .error faults => return .error (.senderFilter faults)
    | .ok sender =>
      match ← Filter.compile search c.receiverFilter with
      | .error faults => return .error (.receiverFilter faults)
      | .ok receiver => return .ok ⟨c.channels, sender, receiver⟩

end BroadcastFilter
