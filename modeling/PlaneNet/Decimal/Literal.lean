import PlaneNet.Binary.Format
import PlaneNet.Text.Case

set_option autoImplicit false

namespace PlaneNet.Decimal

inductive Literal where
  | nan
  | infinite (negative : Bool)
  /-- `coefficient * 10 ^ exponent` -/
  | finite (negative : Bool) (coefficient : Nat) (exponent : Int)
  deriving Repr, DecidableEq

def isDigit (c : Char) : Bool := '0' ≤ c && c ≤ '9'

def digitValue (c : Char) : Nat := c.toNat - '0'.toNat

def value (digits : List Char) : Nat :=
  digits.foldl (fun n c => 10 * n + digitValue c) 0

def digitCount (n : Nat) : Nat := (Nat.toDigits 10 n).length

def splitSign : List Char → Bool × List Char
  | '-' :: cs => (true, cs)
  | '+' :: cs => (false, cs)
  | cs => (false, cs)

def exponent? (cs : List Char) : Option Int :=
  let (negative, digits) := splitSign cs
  if digits.isEmpty || !digits.all isDigit then none
  else some (if negative then -(value digits : Int) else value digits)

def exponentPart? : List Char → Option Int
  | [] => some 0
  | c :: cs => if c = 'e' || c = 'E' then exponent? cs else none

def unsigned? (negative : Bool) (cs : List Char) : Option Literal :=
  let whole := cs.takeWhile isDigit
  let (fraction, rest) :=
    match cs.dropWhile isDigit with
    | '.' :: tail => (tail.takeWhile isDigit, tail.dropWhile isDigit)
    | tail => ([], tail)
  if whole.isEmpty && fraction.isEmpty then none
  else (exponentPart? rest).map fun e =>
    .finite negative (value (whole ++ fraction)) (e - fraction.length)

def Literal.ofText? (cs : List Char) : Option Literal :=
  let (negative, body) := splitSign cs
  let word := String.ofList (Text.lowerCase body)
  if word = "inf" || word = "infinity" then some (.infinite negative)
  else if word = "nan" then some .nan
  else unsigned? negative body

-- Beyond ten to this power, up or down, every format has only infinity and zero.
def reach : Nat := 400

/--
The encoding nearest to the literal. The first two cases only keep `10 ^ exponent` from being
computed where the answer does not depend on it.
-/
def Literal.encode (f : Binary.Format) : Literal → Binary.Encoded
  | .nan => f.nan
  | .infinite negative => f.infinite negative
  | .finite negative coefficient exponent =>
      let magnitude : Int := exponent + digitCount coefficient
      { negative
        magnitude :=
          if coefficient = 0 || magnitude < -(reach : Int) then 0
          else if (reach : Int) < magnitude then f.infinity
          else f.nearest (coefficient * Nat.pow 10 exponent.toNat) (Nat.pow 10 (-exponent).toNat) }

end PlaneNet.Decimal
