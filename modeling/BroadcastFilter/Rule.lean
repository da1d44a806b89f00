import BroadcastFilter.Match

/-!
Rules: conditions that must all hold, and the action then taken. A rule without conditions applies
to every message.
-/

namespace BroadcastFilter

/-- What is wrong with the matches at the given places of a list. -/
structure MatchFaults where
  faults : List (Nat × Match.Fault)
deriving DecidableEq, Inhabited

/-- Entries with their places, in one text. -/
def placedTexts (what : String) (entries : List (Nat × String)) : String :=
  "; ".intercalate
    (entries.map fun (index, text) => "in " ++ what ++ " index " ++ toString index ++ ": " ++ text)

def MatchFaults.toText (e : MatchFaults) : String :=
  placedTexts "match" (e.faults.map fun (index, fault) => (index, fault.toText))

namespace Match

/-- The faults of all matches in a list, with their places. -/
def faultsOf (ms : List Match) : List (Nat × Fault) :=
  ms.zipIdx.filterMap fun (m, index) =>
    match m.check with
    | .ok () => none
    | .error fault => some (index, fault)

def checkAll (ms : List Match) : Except MatchFaults Unit :=
  if faultsOf ms = [] then .ok () else .error ⟨faultsOf ms⟩

/-- Every match of a list holds. -/
def allHold (search : Search) (ms : List Match) (msg : Message) : Bool :=
  ms.all fun m => m.holds search msg

end Match

structure Rule where
  conditions : List Match
  action : Action
deriving DecidableEq, Inhabited

namespace Rule

inductive Fault where
  | invalidAction (word : String)
  | conditions (faults : MatchFaults)
  | noConditions
deriving DecidableEq, Inhabited

def Fault.toText : Fault → String
  | .invalidAction word => "unrecognized action: " ++ word
  | .conditions faults => faults.toText
  | .noConditions => "rule has no conditions"

def appliesTo (search : Search) (r : Rule) (msg : Message) : Bool :=
  Match.allHold search r.conditions msg

/-- Everything wrong with a rule: first its action, then its conditions. -/
def faults (r : Rule) : List Fault :=
  (if r.action.isRecognized then [] else [.invalidAction r.action.word]) ++
    (match Match.checkAll r.conditions with
    | .ok () => []
    | .error faults => [.conditions faults])

end Rule

end BroadcastFilter
