/-!
Tokens of YAML text. Where the text does not show where a collection begins or ends, tokens do.
-/

namespace BroadcastFilter.Yaml

inductive Style where
  | plain
  | singleQuoted
  | doubleQuoted
  | literal
  | folded
deriving DecidableEq, Inhabited

inductive Token where
  | versionDirective (major minor : Nat)
  /-- Tags that begin with the handle stand for tags that begin with the replacement. -/
  | tagDirective (handle replacement : String)
  | documentStart
  | documentEnd
  | blockSequenceStart
  | blockMappingStart
  | blockEnd
  | flowSequenceStart
  | flowSequenceEnd
  | flowMappingStart
  | flowMappingEnd
  | blockEntry
  | flowEntry
  | key
  | value
  | alias (name : String)
  | anchor (name : String)
  | tag (handle suffix : String)
  | scalar (text : String) (style : Style)
  | streamEnd
deriving DecidableEq, Inhabited

end BroadcastFilter.Yaml
