import BroadcastFilter.Action
import BroadcastFilter.Mode

/-!
Traces: how a decision came about. A trace has a step for every rule that was tried, and a step has
the outcome of every condition of its rule.
-/

namespace BroadcastFilter

namespace Trace

structure Outcome where
  index : Nat
  mode : Mode
  matched : Bool
deriving DecidableEq, Inhabited

structure Step where
  index : Nat
  matched : Bool
  conditions : List Outcome
deriving DecidableEq, Inhabited

end Trace

structure Trace where
  result : Action
  steps : List Trace.Step
  /-- No rule applied, so the result is the default. -/
  usedDefault : Bool
deriving DecidableEq, Inhabited

namespace Trace

/-- The place of the rule that decided. -/
def decidedBy (t : Trace) : Option Nat := (t.steps.find? (·.matched)).map (·.index)

def Outcome.toText (o : Outcome) : String :=
  "  [" ++ toString o.index ++ "] " ++ o.mode.tag ++ ": " ++
    (if o.matched then "true" else "false") ++ "\n"

def Step.toText (s : Step) : String :=
  "rule[" ++ toString s.index ++ "]: " ++ (if s.matched then "match" else "no match") ++ "\n" ++
    String.join (s.conditions.map Outcome.toText)

def toText (t : Trace) : String :=
  String.join (t.steps.map Step.toText) ++
    (if t.usedDefault then "no rule matched, default applies\n" else "") ++
    "result: " ++ t.result.word

end Trace

end BroadcastFilter
