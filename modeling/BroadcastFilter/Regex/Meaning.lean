import BroadcastFilter.Regex.Expr
import BroadcastFilter.Regex.Term
import BroadcastFilter.Unicode.Folding
import BroadcastFilter.Unicode.Property

/-!
From the written form of a regular expression to its meaning. Flags change what follows them up to
the end of the group they stand in, through all its branches. Expressions that could take part of a
character, which only expressions without the Unicode flag can, have no meaning.
-/

namespace BroadcastFilter.Regex

open BroadcastFilter.Unicode

/-- The flags in force that bear on meaning. -/
structure Switches where
  caseInsensitive : Bool := false
  multiLine : Bool := false
  dotMatchesLineEnd : Bool := false
  unicode : Bool := true
  crlf : Bool := false

def Switches.change (s : Switches) (change : Flag × Bool) : Switches :=
  match change with
  | (.caseInsensitive, on) => { s with caseInsensitive := on }
  | (.multiLine, on) => { s with multiLine := on }
  | (.dotMatchesLineEnd, on) => { s with dotMatchesLineEnd := on }
  | (.unicode, on) => { s with unicode := on }
  | (.crlf, on) => { s with crlf := on }
  | (.swapGreed, _) | (.spaced, _) => s

def Switches.apply (s : Switches) (changes : FlagChanges) : Switches :=
  changes.foldl Switches.change s

/-- The character a literal stands for. A byte beyond the first 128 is no character. -/
def Literal.code? (s : Switches) (l : Literal) : Option Nat :=
  if !s.unicode && l.twoDigits && 128 ≤ l.char.toNat then none else some l.char.toNat

/-- The characters a literal outside brackets takes. -/
def Literal.term? (s : Switches) (l : Literal) : Option Term := do
  let c ← l.code? s
  some (.one (
    if !s.caseInsensitive then CodeSet.single c
    else if s.unicode then CodeSet.caseVariants c
    else (CodeSet.single c).foldAsciiCase))

def AsciiClass.ranges : AsciiClass → List (Nat × Nat)
  | .alnum => [(48, 57), (65, 90), (97, 122)]
  | .alpha => [(65, 90), (97, 122)]
  | .ascii => [(0, 127)]
  | .blank => [(9, 9), (32, 32)]
  | .cntrl => [(0, 31), (127, 127)]
  | .digit => [(48, 57)]
  | .graph => [(33, 126)]
  | .lower => [(97, 122)]
  | .print => [(32, 126)]
  | .punct => [(33, 47), (58, 64), (91, 96), (123, 126)]
  | .space => [(9, 13), (32, 32)]
  | .upper => [(65, 90)]
  | .word => [(48, 57), (65, 90), (95, 95), (97, 122)]
  | .xdigit => [(48, 57), (65, 70), (97, 102)]

/-- Applies case and negation, in this order, so that the negation of a letter excludes both its
cases. Without the Unicode flag the result must stay within the first 128 characters. -/
def settle (s : Switches) (negated : Bool) (set : CodeSet) : Option CodeSet :=
  if s.unicode then
    let set := if s.caseInsensitive then set.foldCase else set
    some (if negated then set.complement else set)
  else
    let set := if s.caseInsensitive then set.foldAsciiCase else set
    if negated || !set.isAscii then none else some set

def Shorthand.set? (s : Switches) (negated : Bool) (kind : Shorthand) : Option CodeSet :=
  if s.unicode then
    let set := match kind with
      | .digit => digits
      | .space => whiteSpace
      | .word => wordCharacters
    some (if negated then set.complement else set)
  else if negated then none
  else some ⟨(match kind with
    | .digit => AsciiClass.digit
    | .space => AsciiClass.space
    | .word => AsciiClass.word).ranges⟩

def Query.set? (s : Switches) (negated : Bool) (query : Query) : Option CodeSet :=
  if s.unicode then do
    let set ← match query with
      | .letter c => Property.named? (String.singleton c)
      | .named name => Property.named? name
      | .valued property value => Property.valued? property value
    settle s negated set
  else none

/-- A literal in brackets. Without the Unicode flag it must be one of the first 128 characters. -/
def Literal.inBrackets? (s : Switches) (l : Literal) : Option Nat := do
  let c ← l.code? s
  if s.unicode || c < 128 then some c else none

def SetOperation.apply (op : SetOperation) (a b : CodeSet) : CodeSet :=
  match op with
  | .intersection => a.inter b
  | .difference => a.difference b
  | .symmetricDifference => a.symmetricDifference b

mutual

/-- The set of what stands in brackets, before the brackets' own negation. -/
def ClassBody.set? (s : Switches) : ClassBody → Option CodeSet
  | .literal l => (l.inBrackets? s).map CodeSet.single
  | .range a b => do
    let low ← a.inBrackets? s
    let high ← b.inBrackets? s
    some (CodeSet.range low high)
  | .ascii kind negated => settle s negated ⟨kind.ranges⟩
  | .shorthand kind negated => kind.set? s negated
  | .property query negated => query.set? s negated
  | .bracketed negated body => do settle s negated (← body.set? s)
  | .union items => ClassBody.setOfAll? s items
  | .operation op left right => do
    let fold (set : CodeSet) : CodeSet :=
      if !s.caseInsensitive then set
      else if s.unicode then set.foldCase
      else set.foldAsciiCase
    some (op.apply (fold (← left.set? s)) (fold (← right.set? s)))

def ClassBody.setOfAll? (s : Switches) : List ClassBody → Option CodeSet
  | [] => some CodeSet.empty
  | item :: items => do some ((← item.set? s).union (← ClassBody.setOfAll? s items))

end

/-- The condition an anchor puts on its place. -/
def Anchor.look (s : Switches) : Anchor → Look
  | .lineStart => if s.multiLine then .lineStart s.crlf else .textStart
  | .lineEnd => if s.multiLine then .lineEnd s.crlf else .textEnd
  | .textStart => .textStart
  | .textEnd => .textEnd
  | .wordBoundary => .word .boundary s.unicode
  | .notWordBoundary => .word .noBoundary s.unicode
  | .wordStart => .word .start s.unicode
  | .wordEnd => .word .stop s.unicode
  | .wordStartHalf => .word .startHalf s.unicode
  | .wordEndHalf => .word .stopHalf s.unicode

/-- The characters a dot takes. -/
def dotSet? (s : Switches) : Option CodeSet :=
  if !s.unicode then none
  else if s.dotMatchesLineEnd then some CodeSet.full
  else if s.crlf then some (CodeSet.ofRanges [(10, 10), (13, 13)]).complement
  else some (CodeSet.single 10).complement

mutual

/-- The meaning of an expression under the flags in force, and the flags after it. -/
def Expr.term? (s : Switches) : Expr → Option (Term × Switches)
  | .empty => some (.empty, s)
  | .flags changes => some (.empty, s.apply changes)
  | .literal l => do some (← l.term? s, s)
  | .dot => do some (.one (← dotSet? s), s)
  | .anchor a => some (.look (a.look s), s)
  | .shorthand kind negated => do some (.one (← kind.set? s negated), s)
  | .property query negated => do some (.one (← query.set? s negated), s)
  | .bracketed negated body => do some (.one (← settle s negated (← body.set? s)), s)
  | .repetition least most body => do
    let (t, after) ← body.term? s
    some (.repeated least most t, after)
  | .group captures changes body => do
    let (t, _) ← body.term? (s.apply changes)
    some (if captures then .capture t else t, s)
  | .alternation branches => do
    let (ts, after) ← Expr.termsOf? s branches
    some (.ofBranches ts, after)
  | .concat items => do
    let (ts, after) ← Expr.termsOf? s items
    some (.ofSequence ts, after)

/-- The meanings of expressions in a row; each hands its flags on to the next. -/
def Expr.termsOf? (s : Switches) : List Expr → Option (List Term × Switches)
  | [] => some ([], s)
  | e :: es => do
    let (t, s) ← e.term? s
    let (ts, s) ← Expr.termsOf? s es
    some (t :: ts, s)

end

end BroadcastFilter.Regex
