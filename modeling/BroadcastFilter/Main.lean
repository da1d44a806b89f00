import BroadcastFilter.Command
import BroadcastFilter.Regex.Engine

/-!
The program: does what its command asks for, step by step.
-/

open BroadcastFilter

/-- Why the operating system did not give a file. Its number for a fault may come negated. -/
def faultOf : IO.Error → ReadFault
  | .alreadyExists _ code details | .otherError code details | .resourceBusy code details
  | .resourceVanished code details | .unsupportedOperation code details
  | .hardwareFault code details | .unsatisfiedConstraints code details
  | .illegalOperation code details | .protocolError code details | .timeExpired code details
  | .interrupted _ code details | .noFileOrDirectory _ code details
  | .invalidArgument _ code details | .permissionDenied _ code details
  | .resourceExhausted _ code details | .inappropriateType _ code details
  | .noSuchThing _ code details => .ofSystem code.toInt32.toInt.natAbs details
  | .unexpectedEof => .other "unexpected end of file"
  | .userError details => .other details

/-- The text of a file, or why it cannot be read. -/
def readText (path : String) : IO (Except ReadFault String) := do
  if path.toList.contains '\x00' then return .error .zeroInName
  try
    let bytes ← IO.FS.readBinFile path
    match String.fromUTF8? bytes with
    | some text => return .ok text
    | none => return .error .notText
  catch e => return .error (faultOf e)

/-- Carries a program out, and gives its exit code. -/
def perform : Program Empty Unit → IO UInt32
  | .ended how => return UInt32.ofNat (Command.exitCode how)
  | .read path next => do perform (next (← readText path))
  | .print text next => do
    (← IO.getStdout).putStr text
    perform next
  | .report text next => do
    (← IO.getStderr).putStr text
    perform next

def main (args : List String) : IO UInt32 := perform (Command.main Regex.search args)
