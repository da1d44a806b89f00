import BroadcastFilter.Config.Schema
import BroadcastFilter.Decode.Format
import BroadcastFilter.Files

/-!
Loading a configuration from a file. Files whose extension is `json` hold JSON, all others YAML.
-/

namespace BroadcastFilter.Config

/-- A configuration from text, as yet unchecked. -/
def ofText (format : Decode.Format) (text : String) : Except Error Config :=
  mapError (match format with | .json => .json | .yaml => .yaml) (format.read Config.read text)

/-- The format of a configuration file. -/
def formatOf (path : String) : Decode.Format :=
  if Files.extension? path = some "json" then .json else .yaml

/-- Checks the configuration that a path has given, if it has given a text. -/
def ofRead (path : String) : Except ReadFault String → Logged (Except Error Config)
  | .error fault => return .error (.unreadable path fault)
  | .ok text =>
    match ofText (formatOf path) text with
    | .error e => return .error e
    | .ok c => do
      match ← c.validate with
      | .error e => return .error e
      | .ok () => do
        Logged.tell (.configLoaded path c.channels.length c.senderFilter.rules.length
          c.receiverFilter.rules.length)
        return .ok c

/-- Reads and checks the configuration in a file. -/
def load (files : Files) (path : String) : Logged (Except Error Config) :=
  ofRead path (files path)

end BroadcastFilter.Config
