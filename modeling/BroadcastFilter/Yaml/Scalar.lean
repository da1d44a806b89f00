import BroadcastFilter.Binary64.Style
import BroadcastFilter.Json.Number
import BroadcastFilter.Yaml.Token

/-!
What a plain scalar stands for. Text that spells a null, a truth value or a number stands for it;
all other text stands for itself. Digits after a leading zero are text.
-/

namespace BroadcastFilter.Yaml

/-- A floating-point number, or one of the values that are no number. -/
inductive Floating where
  | finite (x : Binary64)
  | infinite (negative : Bool)
  | notANumber
deriving DecidableEq, Inhabited

/-- Finite numbers are always written out. -/
def Floating.toText : Floating → String
  | .finite x => x.toText .plain
  | .infinite negative => if negative then "-inf" else "inf"
  | .notANumber => "NaN"

inductive Resolved where
  | null
  | flag (b : Bool)
  | integer (n : Int)
  | real (r : Floating)
  | text
deriving DecidableEq, Inhabited

namespace Scalar

def isNull (s : String) : Bool := s == "null" || s == "Null" || s == "NULL" || s == "~"

def flag? (s : String) : Option Bool :=
  if s = "true" ∨ s = "True" ∨ s = "TRUE" then some true
  else if s = "false" ∨ s = "False" ∨ s = "FALSE" then some false
  else none

/-- The value of a digit in any base up to sixteen. -/
def digit? (base : Nat) (c : Char) : Option Nat :=
  let d :=
    if '0' ≤ c ∧ c ≤ '9' then c.toNat - 48
    else if 'a' ≤ c ∧ c ≤ 'f' then c.toNat - 87
    else if 'A' ≤ c ∧ c ≤ 'F' then c.toNat - 55
    else base
  if d < base then some d else none

/-- The number that digits write, if there are any and nothing else. -/
def ofDigits? (base : Nat) (cs : List Char) : Option Nat :=
  if cs.isEmpty then none
  else cs.foldl (fun n c => n.bind fun n => (digit? base c).map (n * base + ·)) (some 0)

/-- Digits after a leading zero, with or without a sign. -/
def hasLeadingZero (cs : List Char) : Bool :=
  let body := match cs with
    | '+' :: rest => rest
    | '-' :: rest => rest
    | _ => cs
  match body with
  | '0' :: rest => !rest.isEmpty && rest.all Json.Numeral.isDigit
  | _ => false

/-- A number without its sign: with the mark of a base, or decimal. -/
def magnitude? : List Char → Option Nat
  | '0' :: 'x' :: rest => ofDigits? 16 rest
  | '0' :: 'o' :: rest => ofDigits? 8 rest
  | '0' :: 'b' :: rest => ofDigits? 2 rest
  | cs => if hasLeadingZero cs then none else ofDigits? 10 cs

/-- A whole number without a minus sign. -/
def natural? (s : String) : Option Nat :=
  match s.toList with
  | '+' :: rest => magnitude? rest
  | cs => magnitude? cs

def integer? (s : String) : Option Int :=
  match s.toList with
  | '-' :: rest => (magnitude? rest).map fun n => -(n : Int)
  | _ => (natural? s).map fun n => (n : Int)

/-- A whole number that 128 bits hold, with a sign if it is negative. -/
def wideInteger? (s : String) : Option Int :=
  (integer? s).filter fun n => if n < 0 then n.natAbs ≤ Nat.pow 2 127 else n.natAbs < Nat.pow 2 128

/-- The decimal exponent after its mark. -/
def exponent? (cs : List Char) : Option Int :=
  match cs with
  | '-' :: rest => (ofDigits? 10 rest).map fun n => -(n : Int)
  | '+' :: rest => (ofDigits? 10 rest).map fun n => (n : Int)
  | rest => (ofDigits? 10 rest).map fun n => (n : Int)

/-- A decimal without its sign: digits with a point among, before or after them, and an exponent. A
number that is too large is none. -/
def decimal? (cs : List Char) : Option Binary64 := do
  let (whole, rest) := Json.Numeral.digits cs
  let (fraction, rest) := match rest with
    | '.' :: rest => Json.Numeral.digits rest
    | rest => ([], rest)
  if whole.isEmpty && fraction.isEmpty then none
  let exponent ← match rest with
    | [] => some 0
    | e :: rest => if e = 'e' ∨ e = 'E' then exponent? rest else none
  Binary64.ofDecimal? (Json.Numeral.ofDigits (whole ++ fraction)) (exponent - fraction.length)

def real? (s : String) : Option Floating :=
  let positive := match s.toList with
    | '+' :: '+' :: _ | '+' :: '-' :: _ => none
    | '+' :: rest => some rest
    | cs => some cs
  positive.bind fun cs =>
    let body := String.ofList cs
    if body = ".inf" ∨ body = ".Inf" ∨ body = ".INF" then some (.infinite false)
    else if s = "-.inf" ∨ s = "-.Inf" ∨ s = "-.INF" then some (.infinite true)
    else if s = ".nan" ∨ s = ".NaN" ∨ s = ".NAN" then some .notANumber
    else match cs with
      | '-' :: rest => (decimal? rest).map fun x => .finite x.neg
      | _ => (decimal? cs).map .finite

def resolve (s : String) : Resolved :=
  if s = "" ∨ isNull s then .null
  else match flag? s with
    | some b => .flag b
    | none => match wideInteger? s with
      | some n => .integer n
      | none =>
        if hasLeadingZero s.toList then .text
        else match real? s with
          | some r => .real r
          | none => .text

/-- Tags that say what a scalar stands for. -/
inductive CoreTag where
  | null
  | flag
  | integer
  | real
deriving DecidableEq, Inhabited

def CoreTag.of? (tag : String) : Option CoreTag :=
  if tag = "tag:yaml.org,2002:null" then some .null
  else if tag = "tag:yaml.org,2002:bool" then some .flag
  else if tag = "tag:yaml.org,2002:int" then some .integer
  else if tag = "tag:yaml.org,2002:float" then some .real
  else none

/-- What text stands for if a tag says what it has to be. -/
def resolveAs (tag : CoreTag) (s : String) : Option Resolved :=
  match tag with
  | .null => if isNull s then some .null else none
  | .flag => (flag? s).map .flag
  | .integer => (wideInteger? s).map .integer
  | .real => (real? s).map .real

/-- A tag of the document's own, which begins with a mark. -/
def isOwnTag (tag : String) : Bool := tag.toList.head? == some '!'

/-- What a scalar stands for, or the tag that it does not fit. Text that is quoted or in a block, or
that has any other tag, stands for itself. -/
def meaning (s : String) (style : Style) (tag : Option String) : Except CoreTag Resolved :=
  match tag with
  | none => .ok (if style = .plain then resolve s else .text)
  | some tag =>
    match CoreTag.of? tag with
    | some core =>
      match resolveAs core s with
      | some r => .ok r
      | none => .error core
    | none => .ok (if isOwnTag tag ∧ style = .plain then resolve s else .text)

/-- The scalar may be read as a value of a kind: if it is plain, or a literal block with the tag of
that kind. -/
def mayBe (core : CoreTag) (style : Style) (tag : Option String) : Bool :=
  style == .plain || (style == .literal && tag.bind CoreTag.of? == some core)

end Scalar

end BroadcastFilter.Yaml
