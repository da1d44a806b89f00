import BroadcastFilter.Chain
import BroadcastFilter.Condition

/-!
Filters: chains made ready. A filter is made from a well-formed chain alone and decides as that
chain does, without looking at its patterns again.
-/

namespace BroadcastFilter

namespace Filter

/-- A rule made ready. -/
structure Rule where
  conditions : List Condition
  action : Action

def Rule.appliesTo (r : Rule) (msg : Message) : Bool := r.conditions.all fun c => c.holds msg

/-- Makes the matches from place `index` on ready, up to the first that cannot be. -/
def compileMatches (search : Search) (index : Nat) :
    List Match → Logged (Except (Nat × Match.Fault) (List Condition))
  | [] => return .ok []
  | m :: rest => do
    match ← Condition.compile search m with
    | .error fault => return .error (index, fault)
    | .ok c => return (← compileMatches search (index + 1) rest).map (c :: ·)

/-- Makes the rules from place `index` on ready, up to the first that cannot be. -/
def compileRules (search : Search) (index : Nat) :
    List BroadcastFilter.Rule → Logged (Except ChainFaults (List Rule))
  | [] => return .ok []
  | r :: rest => do
    match ← compileMatches search 0 r.conditions with
    | .error fault => return .error ⟨[(index, .conditions ⟨[fault]⟩)]⟩
    | .ok conditions =>
      return (← compileRules search (index + 1) rest).map (⟨conditions, r.action⟩ :: ·)

end Filter

structure Filter where
  rules : List Filter.Rule

namespace Filter

/-- Checks a chain and makes it ready. -/
def compile (search : Search) (c : Chain) : Logged (Except ChainFaults Filter) :=
  match c.check with
  | .error faults => return .error faults
  | .ok () => do
    match ← compileRules search 0 c.rules with
    | .error faults => return .error faults
    | .ok rules => do
      Logged.tell (.filterCompiled rules.length)
      return .ok ⟨rules⟩

/-- Decides on a message. -/
def evaluate (f : Filter) (msg : Message) (default : Action) : Logged Action :=
  match f.rules.zipIdx.find? fun (r, _) => r.appliesTo msg with
  | some (r, index) => do
    Logged.tell (.compiledRuleMatched index)
    return r.action
  | none => return default

end Filter

end BroadcastFilter
