import BroadcastFilter.Json.Value

/-!
The value of a written number. A numeral with neither fraction nor exponent is a whole number if 64
bits hold it. Every other numeral is a floating-point number, made in three steps: as many digits as
64 bits hold, the power of ten that stands for the digits left out and for the point, and one
product or quotient of the two. The last digit may differ from the nearest number's because each
step rounds.
-/

namespace BroadcastFilter.Json

/-- The parts of a written number. -/
structure Numeral where
  negative : Bool
  whole : List Char
  fraction : Option (List Char)
  exponent : Option Int

namespace Numeral

def digit (c : Char) : Nat := c.toNat - '0'.toNat

/-- The number that digits write. -/
def ofDigits (ds : List Char) : Nat := ds.foldl (fun n c => 10 * n + digit c) 0

/-- One past the numbers that 64 bits hold. -/
def capacity : Nat := UInt64.size

/-- Appends digits to a number as long as 64 bits hold it; also the count of digits left out. -/
def append (n : Nat) : List Char → Nat × Nat
  | [] => (n, 0)
  | c :: rest =>
    if 10 * n + digit c < capacity then append (10 * n + digit c) rest else (n, rest.length + 1)

/-- The greatest power of ten below the greatest floating-point number. -/
def greatestPower : Nat := 308

/-- A floating-point number times a power of ten, or nothing if that is too large. A power too small
to be a number itself is divided out in several steps, of which two leave nothing. -/
def timesPower? (x : Binary64) (exponent : Int) : Nat → Option Binary64
  | 0 => some .zero
  | steps + 1 =>
    if exponent.natAbs ≤ greatestPower then
      (Binary64.ofRatio? (Nat.pow 10 exponent.natAbs) 1).bind fun power =>
        if 0 ≤ exponent then x.mul? power else x.div? power
    else if x.isZero then some x
    else if 0 ≤ exponent then none
    else
      (Binary64.ofRatio? (Nat.pow 10 greatestPower) 1).bind fun power =>
        (x.div? power).bind fun y => timesPower? y (exponent + greatestPower) steps

def float? (n : Numeral) : Option Binary64 :=
  let (significand, left) := append 0 n.whole
  let fraction := n.fraction.getD []
  let (significand, unused) := append significand fraction
  let places : Int := (left : Int) - (fraction.length - unused : Nat)
  let exponent := places + n.exponent.getD 0
  (Binary64.ofRatio? significand 1).bind fun x =>
    (timesPower? x exponent 4).map fun y => if n.negative then y.neg else y

/-- The value of a numeral, unless it is out of range. Minus zero is a floating-point number. -/
def value? (n : Numeral) : Option Number :=
  let whole := ofDigits n.whole
  let fits :=
    if n.negative then whole != 0 && decide (whole ≤ Int64.minValue.toInt.natAbs)
    else decide (whole < capacity)
  let isWhole := n.fraction.isNone && n.exponent.isNone && fits
  if isWhole then some (.integer (if n.negative then -(whole : Int) else whole))
  else n.float?.map .float

def isDigit (c : Char) : Bool := '0' ≤ c && c ≤ '9'

/-- The digits at the start of a text. -/
def digits (cs : List Char) : List Char × List Char := (cs.takeWhile isDigit, cs.dropWhile isDigit)

/-- Digits, at least one. -/
def digits? (cs : List Char) : Option (List Char × List Char) :=
  match digits cs with
  | ([], _) => none
  | split => some split

def readFraction (cs : List Char) : Option (Option (List Char) × List Char) :=
  match cs with
  | '.' :: rest => (digits? rest).map fun (ds, rest) => (some ds, rest)
  | _ => some (none, cs)

def readExponent (cs : List Char) : Option (Option Int × List Char) :=
  let magnitude (negative : Bool) (rest : List Char) : Option (Option Int × List Char) :=
    (digits? rest).map fun (ds, rest) =>
      (some (if negative then -(ofDigits ds : Int) else ofDigits ds), rest)
  match cs with
  | e :: rest =>
    if e = 'e' ∨ e = 'E' then
      match rest with
      | '-' :: rest => magnitude true rest
      | '+' :: rest => magnitude false rest
      | rest => magnitude false rest
    else some (none, cs)
  | [] => some (none, cs)

/-- A numeral at the start of a text. A leading zero stands alone before the point. -/
def read (cs : List Char) : Option (Numeral × List Char) := do
  let (negative, cs) := match cs with
    | '-' :: rest => (true, rest)
    | _ => (false, cs)
  let (whole, cs) ← digits? cs
  if whole.head? = some '0' && whole.length ≠ 1 then none
  let (fraction, cs) ← readFraction cs
  let (exponent, cs) ← readExponent cs
  some (⟨negative, whole, fraction, exponent⟩, cs)

end Numeral

end BroadcastFilter.Json
