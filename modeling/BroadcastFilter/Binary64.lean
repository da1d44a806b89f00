/-!
Finite binary floating-point numbers of 64 bits, as exact values: a sign, a whole significand and a
power of two. A number made from a fraction is the nearest one, the even one of two that are equally
near. Sums of bits play no part here; everything is whole-number arithmetic.
-/

namespace BroadcastFilter

/-- The number `significand * 2 ^ exponent` with a sign. The significand has 53 binary digits, or
fewer if the exponent is the least one. -/
structure Binary64 where
  negative : Bool
  significand : Nat
  exponent : Int
deriving DecidableEq, Inhabited

namespace Binary64

def leastExponent : Int := -1074

/-- Beyond this exponent a number is too large. -/
def greatestExponent : Int := 971

def zero : Binary64 := ⟨false, 0, leastExponent⟩

def isZero (x : Binary64) : Bool := x.significand == 0

def neg (x : Binary64) : Binary64 := { x with negative := !x.negative }

/-- The whole number nearest to `num / den`; a half goes to the even neighbour. -/
def roundedQuotient (num den : Nat) : Nat :=
  let q := num / den
  let r := num % den
  if 2 * r < den then q
  else if den < 2 * r then q + 1
  else if q % 2 = 0 then q else q + 1

/-- `a * 2 ^ e` for a whole exponent, as a numerator and a denominator over `b`. -/
def scaled (a b : Nat) (e : Int) : Nat × Nat :=
  match e with
  | .ofNat k => (a * Nat.pow 2 k, b)
  | .negSucc k => (a, b * Nat.pow 2 (k + 1))

/-- The number nearest to `num / den`, or nothing if it is too large. -/
def ofRatio? (num den : Nat) : Option Binary64 :=
  if num = 0 then some zero
  else
    let guess : Int := (Nat.log2 num : Int) - Nat.log2 den - 53
    let (n, d) := scaled num den (-guess)
    let exact := if Nat.pow 2 53 ≤ n / d then guess + 1 else guess
    let e := max exact leastExponent
    let (n, d) := scaled num den (-e)
    let m := roundedQuotient n d
    let (m, e) := if m = Nat.pow 2 53 then (Nat.pow 2 52, e + 1) else (m, e)
    if greatestExponent < e then none else some ⟨false, m, e⟩

/-- The magnitude as a numerator and a denominator. -/
def ratio (x : Binary64) : Nat × Nat := scaled x.significand 1 x.exponent

/-- The product of two magnitudes, or nothing if it is too large. -/
def mul? (x y : Binary64) : Option Binary64 :=
  ofRatio? (x.ratio.1 * y.ratio.1) (x.ratio.2 * y.ratio.2)

/-- The quotient of two magnitudes; the divisor is not zero. -/
def div? (x y : Binary64) : Option Binary64 :=
  ofRatio? (x.ratio.1 * y.ratio.2) (x.ratio.2 * y.ratio.1)

/-- The number nearest to `digits * 10 ^ exponent`, or nothing if it is too large. Exponents far
outside the range are settled without computing the power. -/
def ofDecimal? (digits : Nat) (exponent : Int) : Option Binary64 :=
  let magnitude : Int := (Nat.toDigits 10 digits).length + exponent
  if digits = 0 then some zero
  else if 400 < magnitude then none
  else if magnitude < -400 then some zero
  else match exponent with
    | .ofNat k => ofRatio? (digits * Nat.pow 10 k) 1
    | .negSucc k => ofRatio? digits (Nat.pow 10 (k + 1))

end Binary64

end BroadcastFilter
