import BroadcastFilter.Regex.Term
import BroadcastFilter.Unicode.Character

/-!
Whether a term takes some run of a given text. The places between characters are numbered from 0,
and a set of places is a number whose binary digits say which places are in it. For one text a term
becomes a walk: character sets and conditions turn into fixed sets of places, and what remains is to
compute, from the places where a run may start, the places where it may end. Each repetition only
goes on from places that are new, so the work is bounded by the length of the text.
-/

namespace BroadcastFilter.Regex

open BroadcastFilter.Unicode

/-- A set of places in a text, one binary digit for each. -/
abbrev Places := Nat

namespace Places

/-- All places in a text of a given length. -/
def upTo (length : Nat) : Places := Nat.pow 2 (length + 1) - 1

/-- The places that pass a test, in a list of tests from place 0 upward. -/
def ofTests (tests : List Bool) : Places := tests.foldr (fun b places => 2 * places + b.toNat) 0

/-- The places of one set that are not in another. -/
def without (a b : Places) : Places := a ^^^ (a &&& b)

end Places

/-- A term made ready for one text. -/
inductive Walk where
  | stay
  | step (at_ : Places)
  | check (at_ : Places)
  | seq (first second : Walk)
  | alt (left right : Walk)
  | times (least : Nat) (most : Option Nat) (body : Walk)

namespace Walk

/-- Takes `count` rounds, unless a round changes nothing: then no later one does. -/
def rounds (go : Places → Places) : Nat → Places → Places
  | 0, places => places
  | count + 1, places =>
    let next := go places
    if next = places then places else rounds go count next

/-- Adds all that up to `count` rounds lead to: `fresh` are the places not gone on from yet. -/
def spread (go : Places → Places) : Nat → Places → Places → Places
  | 0, _, all => all
  | count + 1, fresh, all =>
    let found := (go fresh).without all
    if found = 0 then all else spread go count found (all ||| found)

/-- The places where a run may end that starts at one of the given places, in a text of a given
length. -/
def reach (length : Nat) : Walk → Places → Places
  | .stay, places => places
  | .step at_, places => (places &&& at_) <<< 1
  | .check at_, places => places &&& at_
  | .seq first second, places => second.reach length (first.reach length places)
  | .alt left right, places => left.reach length places ||| right.reach length places
  | .times least most body, places =>
    let start := rounds (body.reach length) least places
    let more := match most with
      | none => length + 1
      | some most => min (most - least) (length + 1)
    spread (body.reach length) more start start

end Walk

/-- The characters at the two sides of each place. -/
def sides (before : Option Char) : List Char → List (Option Char × Option Char)
  | [] => [(before, none)]
  | c :: rest => (before, some c) :: sides (some c) rest

/-- Whether a place fulfils a condition, by the characters at its sides. -/
def Look.holds (l : Look) (before after : Option Char) : Bool :=
  let ends (crlf : Bool) : Bool :=
    if crlf then
      after.isNone || after == some '\r' || (after == some '\n' && before != some '\r')
    else after.isNone || after == some '\n'
  let begins (crlf : Bool) : Bool :=
    if crlf then
      before.isNone || before == some '\n' || (before == some '\r' && after != some '\n')
    else before.isNone || before == some '\n'
  match l with
  | .textStart => before.isNone
  | .textEnd => after.isNone
  | .lineStart crlf => begins crlf
  | .lineEnd crlf => ends crlf
  | .word edge unicode =>
    let inWord (c : Option Char) : Bool := c.any fun c =>
      if c.toNat < 128 then c.isAlphanum || c == '_'
      else unicode && wordCharacters.contains c.toNat
    let left := inWord before
    let right := inWord after
    match edge with
    | .boundary => left != right
    | .noBoundary => left == right
    | .start => !left && right
    | .stop => left && !right
    | .startHalf => !left
    | .stopHalf => !right

namespace Term

/-- The walk of a term on a text. -/
def walk (text : List Char) : Term → Walk
  | .empty => .stay
  | .one set => .step (Places.ofTests (text.map fun c => set.contains c.toNat))
  | .look l => .check (Places.ofTests ((sides none text).map fun (a, b) => l.holds a b))
  | .seq a b => .seq (a.walk text) (b.walk text)
  | .alt a b => .alt (a.walk text) (b.walk text)
  | .times least most body => .times least most (body.walk text)
  | .capture body => body.walk text

/-- Whether a term takes some run of the text, wherever it starts and ends. -/
def occursIn (t : Term) (text : String) : Bool :=
  let cs := text.toList
  (t.walk cs).reach cs.length (Places.upTo cs.length) != 0

end Term

end BroadcastFilter.Regex
