import BroadcastFilter.Event
import BroadcastFilter.Text.Quoted

/-!
Patterns for text: either the text itself or a regular expression that is searched for. What a
regular expression is and where it occurs is left to a parameter, so everything said here holds of
every such search. An expression that does not compile is no fault; it matches nothing.
-/

namespace BroadcastFilter

/-- Searching for regular expressions: the test of an expression, unless it does not compile. -/
abbrev Search := String → Option (String → Bool)

/-- Compares a subject with a pattern as written. -/
def Search.matchesText (search : Search) (regex : Bool) (pattern subject : String) : Bool :=
  if regex then
    match search pattern with
    | some occursIn => occursIn subject
    | none => false
  else pattern == subject

/-- Some key matches a pattern as written. -/
def Search.matchesAnyKey (search : Search) (regex : Bool) (pattern : String) (keys : List String) :
    Bool :=
  if regex then
    match search pattern with
    | some occursIn => keys.any occursIn
    | none => false
  else keys.any (· == pattern)

/-- A pattern made ready for many subjects. -/
inductive Pattern where
  | literal (text : String)
  | regex (text : String) (occursIn : String → Bool)
  /-- An expression that does not compile. -/
  | dead (text : String)

namespace Pattern

/-- Makes a pattern ready; one that does not compile is logged. -/
def ofText (search : Search) (regex : Bool) (text : String) : Logged Pattern :=
  if regex then
    match search text with
    | some occursIn => return .regex text occursIn
    | none => do
      Logged.tell (.patternRefused text)
      return .dead text
  else return .literal text

def accepts : Pattern → String → Bool
  | .literal text, subject => text == subject
  | .regex _ occursIn, subject => occursIn subject
  | .dead _, _ => false

def acceptsAny (p : Pattern) (keys : List String) : Bool := keys.any p.accepts

/-- The pattern as it was written. -/
def text : Pattern → String
  | .literal text | .regex text _ | .dead text => text

def isDead : Pattern → Bool
  | .dead _ => true
  | _ => false

def toText : Pattern → String
  | .literal text => "\"" ++ text ++ "\""
  | .regex text _ => "/" ++ text ++ "/"
  | .dead text => "/" ++ text ++ "/ (invalid)"

/-- The pattern with its kind, its text quoted. -/
def inspect : Pattern → String
  | .literal text => "Literal(" ++ Text.quoted text ++ ")"
  | .regex text _ => "Regex(" ++ Text.quoted text ++ ")"
  | .dead text => "Invalid(" ++ Text.quoted text ++ ")"

end Pattern

end BroadcastFilter
