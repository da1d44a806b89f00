import BroadcastFilter.Unicode.CodeSet

/-!
Meaning of a regular expression: which runs of characters it takes. Groups, laziness and flags are
gone, character classes are plain sets, and repeated parts that could only take nothing are counted
at most once.
-/

namespace BroadcastFilter.Regex

open BroadcastFilter.Unicode

/-- What a word boundary asks of the characters at its two sides. -/
inductive Edge where
  | boundary
  | noBoundary
  | start
  | stop
  | startHalf
  | stopHalf
deriving DecidableEq

/-- Conditions on a place between characters. A line ends at a line feed, or with `crlf` at a
carriage return, a line feed or both together. -/
inductive Look where
  | textStart
  | textEnd
  | lineStart (crlf : Bool)
  | lineEnd (crlf : Bool)
  | word (edge : Edge) (unicode : Bool)
deriving DecidableEq

inductive Term where
  | empty
  | one (set : CodeSet)
  | look (l : Look)
  | seq (first second : Term)
  | alt (left right : Term)
  | times (least : Nat) (most : Option Nat) (body : Term)
  | capture (body : Term)

namespace Term

/-- Whether the empty run is all that a term can take. -/
def takesNothing : Term → Bool
  | .empty | .look _ => true
  | .one _ => false
  | .seq a b | .alt a b => a.takesNothing && b.takesNothing
  | .times _ most body => most == some 0 || body.takesNothing
  | .capture body => body.takesNothing

/-- Whether a term never takes the empty run. -/
def takesSome : Term → Bool
  | .empty | .look _ => false
  | .one set => !set.isEmpty
  | .seq a b => a.takesSome || b.takesSome
  | .alt a b => a.takesSome && b.takesSome
  | .times least _ body => least != 0 && body.takesSome
  | .capture body => body.takesSome

/-- One term after another; the empty term leaves no trace. -/
def andThen : Term → Term → Term
  | .empty, t => t
  | t, .empty => t
  | a, b => .seq a b

def ofSequence (terms : List Term) : Term := terms.foldr andThen .empty

/-- The set of a term that takes one character. -/
def set? : Term → Option CodeSet
  | .one set => some set
  | _ => none

/-- Branches that all take one character are a single set. -/
def ofBranches (terms : List Term) : Term :=
  match terms.mapM set? with
  | some sets => .one (CodeSet.unions sets)
  | none =>
    match terms.reverse with
    | [] => .one CodeSet.empty
    | last :: before => before.foldl (fun t branch => .alt branch t) last

/-- Repetition. What can only take nothing is repeated at most once. -/
def repeated (least : Nat) (most : Option Nat) (body : Term) : Term :=
  let (least, most) :=
    if body.takesNothing then (min least 1, some (match most with | some m => min m 1 | none => 1))
    else (least, most)
  if most = some 0 then .empty
  else if least = 1 ∧ most = some 1 then body
  else .times least most body

end Term

end BroadcastFilter.Regex
