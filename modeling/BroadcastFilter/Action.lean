/-!
Actions: what happens to a message. Any other word than the two known ones is kept as it was
written, so that a check can report it.
-/

namespace BroadcastFilter

inductive Action where
  | accept
  | reject
  | unrecognized (word : String)
deriving DecidableEq, Inhabited

namespace Action

def word : Action → String
  | .accept => "accept"
  | .reject => "reject"
  | .unrecognized word => word

/-- The action that a word names. -/
def ofWord (word : String) : Action :=
  if word = "accept" then .accept else if word = "reject" then .reject else .unrecognized word

def isRecognized : Action → Bool
  | .unrecognized _ => false
  | _ => true

end Action

end BroadcastFilter
