import BroadcastFilter.Action

/-!
What the library tells a log. An operation that logs returns its events, in order, next to its
value.
-/

namespace BroadcastFilter

inductive Event where
  | ruleMatched (index : Nat) (action : Action)
  | noRuleMatched (action : Action)
  | compiledRuleMatched (index : Nat)
  | filterCompiled (rules : Nat)
  /-- The reason is left out: of an expression that does not compile a search says no more than
  that it has no test. -/
  | patternRefused (pattern : String)
  | configRejected (reason : String)
  | configLoaded (path : String) (channels senderRules receiverRules : Nat)
deriving DecidableEq, Inhabited

inductive Level where
  | trace
  | debug
  | warn
deriving DecidableEq, Inhabited

def Level.name : Level → String
  | .trace => "TRACE"
  | .debug => "DEBUG"
  | .warn => "WARN"

namespace Event

def level : Event → Level
  | .ruleMatched .. | .noRuleMatched _ | .compiledRuleMatched _ => .trace
  | .filterCompiled _ | .configLoaded .. => .debug
  | .patternRefused _ | .configRejected _ => .warn

def message : Event → String
  | .ruleMatched .. => "rule matched"
  | .noRuleMatched _ => "no rule matched, using default"
  | .compiledRuleMatched _ => "compiled rule matched"
  | .filterCompiled _ => "compiled filter"
  | .patternRefused _ => "regex does not compile, rule will never match"
  | .configRejected _ => "rejected filter config"
  | .configLoaded .. => "loaded filter config"

/-- Names and texts of what an event is about. -/
def fields : Event → List (String × String)
  | .ruleMatched index action => [("index", toString index), ("action", action.word)]
  | .noRuleMatched action => [("action", action.word)]
  | .compiledRuleMatched index => [("index", toString index)]
  | .filterCompiled rules => [("rules", toString rules)]
  | .patternRefused pattern => [("pattern", pattern)]
  | .configRejected reason => [("error", reason)]
  | .configLoaded path channels senderRules receiverRules =>
    [("path", path), ("channels", toString channels), ("sender_rules", toString senderRules),
      ("receiver_rules", toString receiverRules)]

end Event

/-- A value and the events on the way to it. -/
structure Logged (A : Type) where
  value : A
  events : List Event

namespace Logged

instance : Monad Logged where
  pure a := ⟨a, []⟩
  bind x f := ⟨(f x.value).value, x.events ++ (f x.value).events⟩

/-- Tells one event. -/
def tell (e : Event) : Logged Unit := ⟨(), [e]⟩

variable {A B : Type}

@[simp] theorem value_pure (a : A) : (pure a : Logged A).value = a := rfl

@[simp] theorem events_pure (a : A) : (pure a : Logged A).events = [] := rfl

@[simp] theorem value_bind (x : Logged A) (f : A → Logged B) :
    (x >>= f).value = (f x.value).value := rfl

@[simp] theorem events_bind (x : Logged A) (f : A → Logged B) :
    (x >>= f).events = x.events ++ (f x.value).events := rfl

@[simp] theorem events_tell (e : Event) : (tell e).events = [e] := rfl

end Logged

end BroadcastFilter
