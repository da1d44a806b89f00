import Std.Data.HashMap
import BroadcastFilter.Regex.Term

/-!
How large a regular expression is when it is laid out as an automaton over UTF-8 bytes, forward for
finding where a match ends and backward for finding where it starts. A state takes 32 bytes; a state
with several ways out takes 8 more for each byte range, and a fork 4 more for each branch.
Expressions beyond a limit are refused, and this is the only use of the number.
-/

namespace BroadcastFilter.Regex

open BroadcastFilter.Unicode

/-- Byte ranges, one for each byte of an encoded character. -/
abbrev ByteRanges := List (Nat × Nat)

namespace Utf8

/-- The encodings of the values from `low` to `high` with `tail` bytes after the first, as few rows
of byte ranges as cover them; the first byte starts counting at `lead`. -/
def rows (tail lead low high : Nat) : List ByteRanges :=
  match tail with
  | 0 => [[(lead + low, lead + high)]]
  | tail + 1 =>
    let block := Nat.pow 64 (tail + 1)
    let first := low / block
    let last := high / block
    let under (a b : Nat) (head : Nat) : List ByteRanges :=
      (rows tail 0x80 a b).map fun row => (lead + head, lead + head) :: row
    if first = last then under (low % block) (high % block) first
    else
      let cutsFirst := low % block ≠ 0
      let cutsLast := high % block ≠ block - 1
      let from_ := if cutsFirst then first + 1 else first
      let upTo := if cutsLast then last else last + 1
      (if cutsFirst then under (low % block) (block - 1) first else [])
        ++ (if from_ < upTo then
              [(lead + from_, lead + upTo - 1) :: List.replicate (tail + 1) (0x80, 0xBF)] else [])
        ++ (if cutsLast then under 0 (high % block) last else [])

/-- The part of a range between two bounds. -/
def clip (low high : Nat) (r : Nat × Nat) : Option (Nat × Nat) :=
  if max low r.1 ≤ min high r.2 then some (max low r.1, min high r.2) else none

/-- The encodings of a set, in ascending order. The codes of surrogates have none. -/
def rowsOf (s : CodeSet) : List ByteRanges :=
  s.ranges.flatMap fun r =>
    let part (low high tail lead : Nat) : List ByteRanges :=
      match clip low high r with
      | some (a, b) => rows tail lead a b
      | none => []
    part 0 0x7F 0 0 ++ part 0x80 0x7FF 1 0xC0 ++ part 0x800 0xD7FF 2 0xE0
      ++ part 0xE000 0xFFFF 2 0xE0 ++ part 0x10000 0x10FFFF 3 0xF0

/-- Runs of neighbouring rows that start alike, each with the rests of its rows. -/
def groupHeads : List ByteRanges → List ((Nat × Nat) × List ByteRanges)
  | [] => []
  | [] :: rest => groupHeads rest
  | (head :: row) :: rest =>
    match groupHeads rest with
    | (next, rows) :: groups =>
      if next = head then (head, row :: rows) :: groups
      else (head, [row]) :: (next, rows) :: groups
    | [] => [(head, [row])]

/-- States met so far, told apart by their ways out. State 0 is the end. -/
abbrev States := Std.HashMap (List (Nat × Nat × Nat)) Nat

/-- The state from which exactly the given rows lead to the end. Equal states are shared. -/
def share (depth : Nat) (rows : List ByteRanges) (states : States) : Nat × States :=
  match depth, groupHeads rows with
  | _, [] | 0, _ => (0, states)
  | depth + 1, groups =>
    let (ways, states) := groups.foldl (fun (ways, states) (head, rests) =>
      let (target, states) := share depth rests states
      ((head.1, head.2, target) :: ways, states)) ([], states)
    match states[ways]? with
    | some id => (id, states)
    | none => (states.size + 1, states.insert ways (states.size + 1))

/-- The size of a state with some byte ranges as its ways out. -/
def stateSize (ways : Nat) : Nat := if ways ≤ 1 then 32 else 32 + 8 * ways

/-- The forward size of a set with members beyond the first 128. -/
def forwardSize (rows : List ByteRanges) : Nat :=
  32 + (share 4 rows {}).2.fold (fun n ways _ => n + stateSize ways.length) 0

/-- How many places at the start of two rows are equal. -/
def common : ByteRanges → ByteRanges → Nat
  | a :: r, b :: s => if a = b then common r s + 1 else 0
  | _, _ => 0

/-- The backward size: rows that start alike share the states that lead to the end. -/
def backwardSize (rows : List ByteRanges) : Nat :=
  let step (acc : Nat × ByteRanges) (row : ByteRanges) : Nat × ByteRanges :=
    (acc.1 + 4 + 32 * (row.length - common acc.2 row), row)
  (rows.foldl step (64, [])).1

/-- How many bytes encode a character. -/
def width (c : Nat) : Nat :=
  if c < 0x80 then 1 else if c < 0x800 then 2 else if c < 0x10000 then 3 else 4

end Utf8

namespace Term

/-- The size of a set, in one direction. -/
def setSize (backward : Bool) (s : CodeSet) : Nat :=
  match s.only? with
  | some c => 32 * Utf8.width c
  | none =>
    if s.isAscii then 32 + Utf8.stateSize s.ranges.length
    else if backward then Utf8.backwardSize (Utf8.rowsOf s)
    else Utf8.forwardSize (Utf8.rowsOf s)

/-- The size of a repetition whose body has a given size. -/
def timesSize (least : Nat) (most : Option Nat) (body : Nat) (takesSome : Bool) : Nat :=
  match least, most with
  | 0, some 1 => body + 72
  | 0, none => if takesSome then body + 40 else body + 112
  | n, none => n * body + 40
  | n, some m => if n = m then n * body else max 32 (n * body) + 32 + (m - n) * (body + 40)

mutual

/-- The size of a term, in one direction. -/
def size (backward : Bool) : Term → Nat
  | .empty => 32
  | .one set => setSize backward set
  | .look _ => 32
  | .seq a b => a.size backward + b.size backward
  | .alt a b => 72 + a.size backward + b.branchSize backward
  | .times least most body => timesSize least most (body.size backward) body.takesSome
  | .capture body => (if backward then 0 else 64) + body.size backward

/-- The size of what follows the first branch: further branches share its fork. -/
def branchSize (backward : Bool) : Term → Nat
  | .alt a b => 4 + a.size backward + b.branchSize backward
  | .empty => 36
  | .one set => 4 + setSize backward set
  | .look _ => 36
  | .seq a b => 4 + (a.size backward + b.size backward)
  | .times least most body => 4 + timesSize least most (body.size backward) body.takesSome
  | .capture body => 4 + ((if backward then 0 else 64) + body.size backward)

end

/-- The greatest size that is accepted. -/
def sizeLimit : Nat := 10 * Nat.pow 2 20

/-- What surrounds every expression: the search for its start, the match as a whole and its end. -/
def frameSize : Nat := 200

def fits (t : Term) : Bool :=
  frameSize + t.size false ≤ sizeLimit && frameSize + t.size true ≤ sizeLimit

end Term

end BroadcastFilter.Regex
