import BroadcastFilter.Regex.Meaning
import BroadcastFilter.Regex.Reader
import BroadcastFilter.Regex.Size
import BroadcastFilter.Regex.Walk

/-!
Regular expressions as a whole: a pattern is read, given its meaning and measured; what passes finds
its matches anywhere in a text.
-/

namespace BroadcastFilter.Regex

/-- The term of a pattern, unless it cannot be read, has no meaning or is too large. -/
def compile? (pattern : String) : Option Term := do
  let e ← Reader.read pattern
  let (t, _) ← e.term? {}
  if t.fits then some t else none

/-- Searching by regular expressions: the pattern's test on texts, unless it is no expression. -/
def search (pattern : String) : Option (String → Bool) := (compile? pattern).map Term.occursIn

end BroadcastFilter.Regex
