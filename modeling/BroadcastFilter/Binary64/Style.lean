import BroadcastFilter.Binary64.Shortest

/-!
Writing a floating-point number. A style says for which places of the decimal point the number is
written out; outside them it gets an exponent with its sign. A number written out always keeps a
digit after the point.
-/

namespace BroadcastFilter.Binary64

/-- The places of the decimal point, counted from the first digit, at which a number is written out:
above `least` and up to `greatest`. -/
structure Style where
  least : Option Int
  greatest : Option Int

/-- Numbers in JSON are written out from 0.00001 up to 16 digits before the point. -/
def Style.json : Style := ⟨some (-5), some 16⟩

/-- Numbers that are always written out. -/
def Style.plain : Style := ⟨none, none⟩

def Style.writesOut (s : Style) (place : Int) : Bool :=
  s.least.all (· < place) && s.greatest.all (place ≤ ·)

def zeros (n : Nat) : String := String.ofList (List.replicate n '0')

/-- Digits with the decimal point at a place that may lie outside them. -/
def writtenOut (digits : List Char) (place : Int) : String :=
  match place with
  | .ofNat 0 => "0." ++ String.ofList digits
  | .negSucc k => "0." ++ zeros (k + 1) ++ String.ofList digits
  | .ofNat k =>
    if digits.length ≤ k then String.ofList digits ++ zeros (k - digits.length) ++ ".0"
    else String.ofList (digits.take k) ++ "." ++ String.ofList (digits.drop k)

/-- Digits with one before the point, and the exponent. -/
def withExponent (digits : List Char) (place : Int) : String :=
  let mantissa := match digits with
    | [] => ""
    | [d] => String.singleton d
    | d :: rest => String.ofList (d :: '.' :: rest)
  let e := place - 1
  mantissa ++ "e" ++ (if e < 0 then "-" else "+") ++ toString e.natAbs

def toText (style : Style) (x : Binary64) : String :=
  let (digits, e) := x.shortest
  let ds := Nat.toDigits 10 digits
  let place : Int := ds.length + e
  (if x.negative then "-" else "") ++
    (if x.isZero then "0.0"
     else if style.writesOut place then writtenOut ds place
     else withExponent ds place)

end BroadcastFilter.Binary64
