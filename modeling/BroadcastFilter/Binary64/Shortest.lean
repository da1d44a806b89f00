import BroadcastFilter.Binary64

/-!
The fewest decimal digits that read back as the same number. The reals that round to a number form
an interval around it, ends included if its significand is even. For 1, 2, 3 and more digits in turn
the two decimals around the number are tried: the first that falls into the interval wins, and of
two the nearer one.
-/

namespace BroadcastFilter.Binary64

/-- How far the decimal point stands to the right of the first digit's left edge: the value lies
between `10 ^ (k - 1)` and `10 ^ k`. -/
def pointPlace (x : Binary64) : Int :=
  let (n, d) := x.ratio
  if d ≤ n then (Nat.toDigits 10 (n / d)).length
  else 1 - (Nat.toDigits 10 (d / n)).length

/-- The decimal with the given number of digits that is nearest to the number, if it rounds back
to it. -/
def digitsOf? (x : Binary64) (count : Nat) : Option Nat :=
  let (up, down) := scaled 1 1 (x.exponent - 2)
  let unit : Int := x.pointPlace - count
  let (upper, lower) : Nat × Nat := match unit with
    | .ofNat k => (Nat.pow 10 k, 1)
    | .negSucc k => (1, Nat.pow 10 (k + 1))
  let quarter (n : Nat) : Nat := n * up * lower
  let decimal (c : Nat) : Nat := c * upper * down
  let m := x.significand
  let narrow := m = Nat.pow 2 52 ∧ leastExponent < x.exponent
  let low := quarter (if narrow then 4 * m - 1 else 4 * m - 2)
  let value := quarter (4 * m)
  let high := quarter (4 * m + 2)
  let inside (c : Nat) : Bool :=
    let d := decimal c
    c != 0 && (if m % 2 = 0 then low ≤ d && d ≤ high else low < d && d < high)
  let c := value / (upper * down)
  match inside c, inside (c + 1) with
  | true, true =>
    let before := value - decimal c
    let after := decimal (c + 1) - value
    if before < after ∨ (before = after ∧ c % 2 = 0) then some c else some (c + 1)
  | true, false => some c
  | false, true => some (c + 1)
  | false, false => none

/-- Tries digit counts from `count` upward. -/
def shortestFrom (x : Binary64) (count : Nat) : Nat → Nat × Int
  | 0 => (0, 0)
  | fuel + 1 =>
    match x.digitsOf? count with
    | some digits => (digits, x.pointPlace - count)
    | none => shortestFrom x (count + 1) fuel

/-- Moves zeros at the end of the digits into the exponent. -/
def trimZeros : Nat → Nat × Int → Nat × Int
  | 0, d => d
  | fuel + 1, (digits, e) =>
    if digits ≠ 0 ∧ digits % 10 = 0 then trimZeros fuel (digits / 10, e + 1) else (digits, e)

/-- The shortest decimal of a magnitude: digits and the power of ten they are multiplied by. -/
def shortest (x : Binary64) : Nat × Int :=
  if x.isZero then (0, 0) else trimZeros 20 (shortestFrom x 1 20)

end BroadcastFilter.Binary64
