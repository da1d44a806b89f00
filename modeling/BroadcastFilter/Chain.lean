import BroadcastFilter.Rule
import BroadcastFilter.Trace

/-!
Chains of rules. The first rule that applies decides, and a default decides if none does. Deciding
never fails; whether a chain is well formed is a separate question, which finds every fault at once.
-/

namespace BroadcastFilter

/-- What is wrong with the rules at the given places of a chain. -/
structure ChainFaults where
  faults : List (Nat × Rule.Fault)
deriving DecidableEq, Inhabited

namespace ChainFaults

def toText (e : ChainFaults) : String :=
  placedTexts "chain" (e.faults.map fun (index, fault) => (index, fault.toText))

/-- Drops every number that equals the one before it. -/
def dropRepeats : List Nat → List Nat
  | a :: b :: rest => if a = b then dropRepeats (b :: rest) else a :: dropRepeats (b :: rest)
  | few => few

/-- The places of the rules with faults. -/
def indices (e : ChainFaults) : List Nat := dropRepeats (e.faults.map (·.1))

end ChainFaults

structure Chain where
  rules : List Rule
deriving DecidableEq, Inhabited

namespace Chain

/-- Decides by the rules from place `index` on. -/
def evaluateFrom (search : Search) (msg : Message) (default : Action) (index : Nat) :
    List Rule → Logged Action
  | [] => do
    Logged.tell (.noRuleMatched default)
    return default
  | r :: rest =>
    if r.appliesTo search msg then do
      Logged.tell (.ruleMatched index r.action)
      return r.action
    else evaluateFrom search msg default (index + 1) rest

/-- Decides on a message. -/
def evaluate (search : Search) (c : Chain) (msg : Message) (default : Action) : Logged Action :=
  evaluateFrom search msg default 0 c.rules

/-- The outcome of every match in a list. -/
def outcomes (search : Search) (msg : Message) (ms : List Match) : List Trace.Outcome :=
  ms.zipIdx.map fun (m, index) => ⟨index, m.mode, m.holds search msg⟩

/-- Traces the rules from place `index` on. -/
def traceFrom (search : Search) (msg : Message) (default : Action) (index : Nat) :
    List Rule → Logged Trace
  | [] => return ⟨default, [], true⟩
  | r :: rest => do
    let conditions := outcomes search msg r.conditions
    let matched := conditions.all (·.matched)
    let step : Trace.Step := ⟨index, matched, conditions⟩
    if matched then return ⟨r.action, [step], false⟩
    else
      let later ← traceFrom search msg default (index + 1) rest
      return { later with steps := step :: later.steps }

/-- Decides on a message and tells how. -/
def traced (search : Search) (c : Chain) (msg : Message) (default : Action) : Logged Trace :=
  traceFrom search msg default 0 c.rules

/-- How a decision comes about. -/
def trace (search : Search) (c : Chain) (msg : Message) (default : Action) : Trace :=
  (c.traced search msg default).value

/-- All faults, with the places of their rules. If `strict`, a rule without conditions is at fault.
-/
def faults (strict : Bool) (c : Chain) : List (Nat × Rule.Fault) :=
  c.rules.zipIdx.flatMap fun (r, index) =>
    let bare := if strict && r.conditions.isEmpty then [Rule.Fault.noConditions] else []
    (r.faults ++ bare).map (index, ·)

def checkWith (strict : Bool) (c : Chain) : Except ChainFaults Unit :=
  if c.faults strict = [] then .ok () else .error ⟨c.faults strict⟩

def check (c : Chain) : Except ChainFaults Unit := c.checkWith false

def checkStrictly (c : Chain) : Except ChainFaults Unit := c.checkWith true

end Chain

end BroadcastFilter
