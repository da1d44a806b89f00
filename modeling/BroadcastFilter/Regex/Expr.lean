/-!
Written form of regular expressions: what a pattern says before flags, Unicode data and the size
limit give it a meaning. The only analysis at this level is how deeply an expression nests.
-/

namespace BroadcastFilter.Regex

inductive Flag where
  | caseInsensitive
  | multiLine
  | dotMatchesLineEnd
  | swapGreed
  | unicode
  | crlf
  | spaced
deriving DecidableEq

/-- Flags switched on or off, in the order they are written. -/
abbrev FlagChanges := List (Flag × Bool)

/-- A character in a pattern. Without the Unicode flag one written with exactly two hexadecimal
digits stands for a byte. -/
structure Literal where
  char : Char
  twoDigits : Bool

inductive Anchor where
  | lineStart
  | lineEnd
  | textStart
  | textEnd
  | wordBoundary
  | notWordBoundary
  | wordStart
  | wordEnd
  | wordStartHalf
  | wordEndHalf
deriving DecidableEq

inductive Shorthand where
  | digit
  | space
  | word

/-- The classes with a name between colons, such as `[:alpha:]`. -/
inductive AsciiClass where
  | alnum
  | alpha
  | ascii
  | blank
  | cntrl
  | digit
  | graph
  | lower
  | print
  | punct
  | space
  | upper
  | word
  | xdigit

/-- The question a property class asks. -/
inductive Query where
  | letter (c : Char)
  | named (name : String)
  | valued (property value : String)

inductive SetOperation where
  | intersection
  | difference
  | symmetricDifference

/-- What stands between square brackets. -/
inductive ClassBody where
  | literal (l : Literal)
  | range (first last : Literal)
  | ascii (kind : AsciiClass) (negated : Bool)
  | shorthand (kind : Shorthand) (negated : Bool)
  | property (query : Query) (negated : Bool)
  | bracketed (negated : Bool) (body : ClassBody)
  | union (items : List ClassBody)
  | operation (op : SetOperation) (left right : ClassBody)

inductive Expr where
  | empty
  | flags (changes : FlagChanges)
  | literal (l : Literal)
  | dot
  | anchor (a : Anchor)
  | shorthand (kind : Shorthand) (negated : Bool)
  | property (query : Query) (negated : Bool)
  | bracketed (negated : Bool) (body : ClassBody)
  | repetition (least : Nat) (most : Option Nat) (body : Expr)
  | group (captures : Bool) (changes : FlagChanges) (body : Expr)
  | alternation (branches : List Expr)
  | concat (items : List Expr)

/-- One item stands for itself. -/
def ClassBody.ofItems : List ClassBody → ClassBody
  | [item] => item
  | items => .union items

/-- No item is the empty expression, and one item stands for itself. -/
def Expr.ofItems : List Expr → Expr
  | [] => .empty
  | [item] => item
  | items => .concat items

/-- One branch is no alternation. -/
def Expr.ofBranches : List Expr → Expr
  | [branch] => branch
  | branches => .alternation branches

mutual

/-- How many brackets, lists and operations enclose the innermost item. -/
def ClassBody.depth : ClassBody → Nat
  | .bracketed _ body => body.depth + 1
  | .union [] => 0
  | .union (item :: items) => ClassBody.depthOfAll (item :: items) + 1
  | .operation _ left right => max left.depth right.depth + 1
  | _ => 0

def ClassBody.depthOfAll : List ClassBody → Nat
  | [] => 0
  | item :: items => max item.depth (ClassBody.depthOfAll items)

end

mutual

/-- How many groups, repetitions, brackets, branches and sequences enclose the innermost part. -/
def Expr.depth : Expr → Nat
  | .bracketed _ body => body.depth + 1
  | .repetition _ _ body => body.depth + 1
  | .group _ _ body => body.depth + 1
  | .alternation branches => Expr.depthOfAll branches + 1
  | .concat items => Expr.depthOfAll items + 1
  | _ => 0

def Expr.depthOfAll : List Expr → Nat
  | [] => 0
  | item :: items => max item.depth (Expr.depthOfAll items)

end

end BroadcastFilter.Regex
