/-!
Sets of code points. A set is a list of ranges in ascending order that neither overlap nor touch,
so equal sets have equal lists. Union is defined by putting all ranges in order and joining them;
every other operation is union and complement. Tables of the character database are kept as packed
text and unpacked on demand.
-/

namespace BroadcastFilter.Unicode

/-- A set of code points: ranges `(low, high)` with both ends included, in ascending order and with
at least one code point between neighbours. -/
structure CodeSet where
  ranges : List (Nat × Nat)
deriving DecidableEq, Inhabited

namespace CodeSet

/-- The greatest code point. -/
def top : Nat := 0x10FFFF

/-- The set without members. -/
def empty : CodeSet := ⟨[]⟩

/-- All code points. -/
def full : CodeSet := ⟨[(0, top)]⟩

/-- The code points from `low` to `high`. -/
def range (low high : Nat) : CodeSet := ⟨[(low, high)]⟩

/-- The set of one code point. -/
def single (c : Nat) : CodeSet := range c c

/-- Joins ranges in ascending order of their low ends: the current range grows as long as the next
one overlaps or touches it. -/
def joinFrom (low high : Nat) : List (Nat × Nat) → List (Nat × Nat)
  | [] => [(low, high)]
  | (a, b) :: rest =>
    if a ≤ high + 1 then joinFrom low (max high b) rest
    else (low, high) :: joinFrom a b rest

/-- The set of all members of the given ranges, which may come in any order and overlap. -/
def ofRanges (ranges : List (Nat × Nat)) : CodeSet :=
  match ranges.mergeSort (fun x y => x.1 ≤ y.1) with
  | [] => empty
  | (a, b) :: rest => ⟨joinFrom a b rest⟩

def union (s t : CodeSet) : CodeSet := ofRanges (s.ranges ++ t.ranges)

/-- The gaps between ranges, from `next` upward. -/
def gapsFrom (next : Nat) : List (Nat × Nat) → List (Nat × Nat)
  | [] => if next ≤ top then [(next, top)] else []
  | (a, b) :: rest =>
    if next < a then (next, a - 1) :: gapsFrom (b + 1) rest else gapsFrom (b + 1) rest

def complement (s : CodeSet) : CodeSet := ⟨gapsFrom 0 s.ranges⟩

def inter (s t : CodeSet) : CodeSet := (s.complement.union t.complement).complement

def difference (s t : CodeSet) : CodeSet := (s.complement.union t).complement

/-- The members of exactly one of two sets. -/
def symmetricDifference (s t : CodeSet) : CodeSet := (s.difference t).union (t.difference s)

/-- The union of many sets. -/
def unions (sets : List CodeSet) : CodeSet := ofRanges (sets.flatMap ranges)

/-- Whether a code point lies in one of the ranges; ascending order ends the search early. -/
def within (c : Nat) : List (Nat × Nat) → Bool
  | [] => false
  | (a, b) :: rest => if c < a then false else c ≤ b || within c rest

def contains (s : CodeSet) (c : Nat) : Bool := within c s.ranges

def isEmpty (s : CodeSet) : Bool := s.ranges.isEmpty

/-- Whether every member is below 128. -/
def isAscii (s : CodeSet) : Bool := s.ranges.all fun r => r.2 < 128

/-- The only member, if there is just one. -/
def only? (s : CodeSet) : Option Nat :=
  match s.ranges with
  | [(a, b)] => if a = b then some a else none
  | _ => none

/-- The value of one character of packed text: six bits. -/
def packedDigit (c : Char) : Nat :=
  if '0' ≤ c ∧ c ≤ '9' then c.toNat - 48
  else if 'A' ≤ c ∧ c ≤ 'Z' then c.toNat - 55
  else if 'a' ≤ c ∧ c ≤ 'z' then c.toNat - 61
  else if c = '+' then 62 else 63

/-- Numbers of packed text: five bits a character, most significant first; a digit of 32 or more
says that its number goes on. Line breaks and blanks count for nothing. -/
def packedNumbers (acc : Nat) : List Char → List Nat
  | [] => []
  | c :: rest =>
    let d := packedDigit c
    if c = '\n' ∨ c = ' ' then packedNumbers acc rest
    else if d < 32 then (acc * 32 + d) :: packedNumbers 0 rest
    else packedNumbers (acc * 32 + (d - 32)) rest

/-- Ranges from alternating numbers: how many code points are left out, and how many follow the
first one that is in. -/
def spread (next : Nat) : List Nat → List (Nat × Nat)
  | gap :: more :: rest =>
    (next + gap, next + gap + more) :: spread (next + gap + more + 1) rest
  | _ => []

/-- The set written as packed text. -/
def unpack (text : String) : CodeSet := ⟨spread 0 (packedNumbers 0 text.toList)⟩

end CodeSet

end BroadcastFilter.Unicode
