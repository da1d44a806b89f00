import BroadcastFilter.Config.Load
import BroadcastFilter.Config.Written
import BroadcastFilter.Message.Schema
import BroadcastFilter.Program
import BroadcastFilter.Yaml.Printer

/-!
The command line. A command is a program that may write what it likes before it fails; the failure
is written when the command has ended, and the exit code says whether there was one.
-/

namespace BroadcastFilter.Command

/-- Why a run fails. -/
inductive Failure where
  | noCommand
  | unknownCommand (word : String)
  | unexpectedArgument (word : String)
  | evaluateNeedsPaths
  | checkNeedsPath
  | config (error : Config.Error)
  /-- A chain of the named part has rules without conditions. -/
  | strict (part : String) (faults : ChainFaults)
  | messageUnreadable (path : String) (fault : ReadFault)
  | message (format : Decode.Format) (error : Decode.Error)
deriving DecidableEq, Inhabited

def usageLines : List String :=
  ["Usage: gatekeep <command> [options]",
    "",
    "Commands:",
    "  check <config> [--strict]             Validate config (--strict: no empty rules)",
    "  eval <config> <message> [--trace]     Decide on a message (accept/reject)",
    "  default-config                        Print the default config as YAML",
    "  help                                  Show this help",
    "",
    "Set RUST_LOG (e.g. RUST_LOG=gatekeep=trace) for diagnostics."]

def usage : String := String.join (usageLines.map (· ++ "\n"))

/-- The reason of a failure that has one. -/
def Failure.reason : Failure → String
  | .noCommand => ""
  | .unknownCommand word => "unknown command \"" ++ word ++ "\""
  | .unexpectedArgument word => "unexpected argument \"" ++ word ++ "\""
  | .evaluateNeedsPaths => "eval requires a config file path and a message file path"
  | .checkNeedsPath => "check requires a config file path"
  | .config error => "config invalid: " ++ error.toText
  | .strict part faults => "config invalid: " ++ part ++ ": " ++ faults.toText
  | .messageUnreadable path fault => "failed to read \"" ++ path ++ "\": " ++ fault.toText
  | .message .json error => "JSON parse error: " ++ error.toText
  | .message .yaml error => "YAML parse error: " ++ error.toText

/-- What a failure prints: its reason, and the usage if no command was understood. -/
def Failure.toText : Failure → String
  | .noCommand => usage
  | .unknownCommand word => "error: " ++ (Failure.unknownCommand word).reason ++ "\n" ++ usage
  | f => "error: " ++ f.reason ++ "\n"

/-- What to evaluate. -/
structure Evaluation where
  config : String
  message : String
  trace : Bool
deriving DecidableEq, Inhabited

/-- Sorts arguments into paths and the trace flag, up to the first flag that is unknown. -/
def sortArguments : List String → Except Failure (List String × Bool)
  | [] => .ok ([], false)
  | word :: rest =>
    if word = "--trace" then do
      let (paths, _) ← sortArguments rest
      return (paths, true)
    else if word.startsWith "--" then .error (.unexpectedArgument word)
    else do
      let (paths, trace) ← sortArguments rest
      return (word :: paths, trace)

/-- The arguments of an evaluation: two paths, and the trace flag anywhere. -/
def Evaluation.ofArguments (args : List String) : Except Failure Evaluation :=
  match sortArguments args with
  | .error failure => .error failure
  | .ok ([config, message], trace) => .ok ⟨config, message, trace⟩
  | .ok _ => .error .evaluateNeedsPaths

/-- The format of a message file, by its extension in either case of letters. -/
def messageFormat (path : String) : Decode.Format :=
  if (Files.extension? path).any fun e => e.map Char.toLower == "json" then .json else .yaml

/-- The configuration that a path has given. -/
def configOf (path : String) (read : Except ReadFault String) : Except Failure Config :=
  Config.mapError .config (Config.ofRead path read).value

/-- The message that a path has given. -/
def messageOf (path : String) : Except ReadFault String → Except Failure Message
  | .error fault => .error (.messageUnreadable path fault)
  | .ok text =>
    let format := messageFormat path
    Config.mapError (.message format) (format.read Message.read text)

def readConfig (path : String) : Program Failure Config := do
  .ofExcept (configOf path (← .text path))

def readMessage (path : String) : Program Failure Message := do
  .ofExcept (messageOf path (← .text path))

/-- Decides on a message, or traces the decision. -/
def evaluate (search : Search) (args : List String) : Program Failure Unit := do
  let what ← .ofExcept (Evaluation.ofArguments args)
  let config ← readConfig what.config
  let message ← readMessage what.message
  if what.trace then
    let trace := (config.chainFor message).trace search message Config.defaultAction
    .printText (trace.toText ++ "\n")
  else
    let ready ← .ofExcept (Config.mapError .config (config.compile search).value)
    .printText ((ready.decide message).value.word ++ "\n")

/-- No rule of either chain is without conditions. -/
def checkStrictly (c : Config) : Except Failure Unit := do
  Config.mapError (.strict "sender_filter") c.senderFilter.checkStrictly
  Config.mapError (.strict "receiver_filter") c.receiverFilter.checkStrictly

/-- The path to check, and whether strictly. -/
def checkArguments : List String → Except Failure (String × Bool)
  | [path] => .ok (path, false)
  | [] => .error .checkNeedsPath
  | [path, flag] =>
    if flag = "--strict" then .ok (path, true) else .error (.unexpectedArgument flag)
  | args => .error (.unexpectedArgument (args.getLast?.getD ""))

def check (args : List String) : Program Failure Unit := do
  let (path, strict) ← .ofExcept (checkArguments args)
  let config ← readConfig path
  if strict then .ofExcept (checkStrictly config)
  .printText "Config valid\n"

/-- Runs the command that the arguments name. -/
def run (search : Search) : List String → Program Failure Unit
  | [] => .fail .noCommand
  | command :: args =>
    match command with
    | "eval" => evaluate search args
    | "check" => check args
    | "default-config" => .printText (Yaml.render Config.starter.toValue)
    | "--help" | "-h" | "help" => .reportText usage
    | word => .fail (.unknownCommand word)

/-- Runs the command and tells of its failure. -/
def main (search : Search) (args : List String) : Program Empty Unit :=
  (run search args).handle fun failure => do
    .reportText failure.toText
    .exit 1

/-- What a run leaves behind. -/
structure Outcome where
  exitCode : Nat
  output : String
  errors : String
deriving DecidableEq, Inhabited

/-- The exit code at the end of a program that has dealt with its failures. -/
def exitCode : Ending Empty Unit → Nat
  | .done () => 0
  | .exited code => code

/-- What a run leaves behind beside the given files. -/
def outcome (search : Search) (files : Files) (args : List String) : Outcome :=
  let t := (main search args).on files
  ⟨exitCode t.ending, t.output, t.errors⟩

end BroadcastFilter.Command
