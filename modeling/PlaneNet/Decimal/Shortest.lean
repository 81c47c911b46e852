import PlaneNet.Binary.Encoding

set_option autoImplicit false

namespace PlaneNet.Decimal

structure Grid where
  digits : Nat
  exponent : Int
  deriving Repr, DecidableEq

structure Quotient where
  num : Nat
  den : Nat

namespace Quotient

def ofGrid (g : Grid) : Quotient :=
  ⟨g.digits * Nat.pow 10 g.exponent.toNat, Nat.pow 10 (-g.exponent).toNat⟩

def lt (a b : Quotient) : Bool := a.num * b.den < b.num * a.den

def le (a b : Quotient) : Bool := a.num * b.den ≤ b.num * a.den

def floorTo (a : Quotient) (exponent : Int) : Nat :=
  a.num * Nat.pow 10 (-exponent).toNat / (a.den * Nat.pow 10 exponent.toNat)

end Quotient

/-- The numbers that round to `middle`; the ends count when they do. -/
structure Interval where
  lower : Quotient
  middle : Quotient
  upper : Quotient
  closed : Bool

namespace Interval

/-- The interval of the positive double `significand * 2 ^ shift`, in quarters of the last place. -/
def ofDouble (significand shift : Nat) : Interval :=
  let place := Nat.pow 2 shift
  let den := 4 * Nat.pow 2 Binary.double.scale
  -- Below a power of two the neighbours lie half as far apart.
  let gap := if significand = Binary.double.binade && shift ≠ 0 then 1 else 2
  { lower := ⟨(4 * significand - gap) * place, den⟩
    middle := ⟨4 * significand * place, den⟩
    upper := ⟨(4 * significand + 2) * place, den⟩
    closed := significand % 2 = 0 }

def contains (i : Interval) (a : Quotient) : Bool :=
  if i.closed then i.lower.le a && a.le i.upper else i.lower.lt a && a.lt i.upper

/-- The nearer of the two neighbours on a grid that lie in the interval; half way it is the upper. -/
def onGrid? (i : Interval) (exponent : Int) : Option Grid :=
  let below : Grid := ⟨i.middle.floorTo exponent, exponent⟩
  let above : Grid := ⟨below.digits + 1, exponent⟩
  let half : Quotient := .ofGrid ⟨10 * below.digits + 5, exponent - 1⟩
  match i.contains (.ofGrid below), i.contains (.ofGrid above) with
  | true, true => some (if i.middle.lt half then below else above)
  | true, false => some below
  | false, true => some above
  | false, false => none

def search (i : Interval) : Nat → Int → Grid
  | 0, exponent => ⟨i.middle.floorTo exponent, exponent⟩
  | tries + 1, exponent => (i.onGrid? exponent).getD (i.search tries (exponent - 1))

end Interval

def placeAbove (q : Quotient) : Int :=
  let whole := q.num / q.den
  if whole ≠ 0 then (Nat.toDigits 10 whole).length
  else 1 - ((Nat.toDigits 10 (q.den / q.num)).length : Int)

def Grid.positional (g : Grid) : String :=
  let digits := toString g.digits
  if 0 ≤ g.exponent then digits ++ String.ofList (List.replicate g.exponent.toNat '0')
  else
    let places := (-g.exponent).toNat
    let padded := List.replicate (places + 1 - digits.length) '0' ++ digits.toList
    let cut := padded.length - places
    String.ofList (padded.take cut ++ '.' :: padded.drop cut)

def signed (negative : Bool) (digits : String) : String :=
  if negative then "-" ++ digits else digits

-- Seventeen significant digits suffice, and the first grid tried is one place above them.
def tries : Nat := 18

def shortest (x : Float) : String :=
  match Binary.double.decode (Binary.ofDouble x) with
  | .nan => "NaN"
  | .infinite negative => signed negative "inf"
  | .finite negative 0 _ => signed negative "0"
  | .finite negative significand shift =>
      let i := Interval.ofDouble significand shift
      signed negative (i.search tries (placeAbove i.middle)).positional

end PlaneNet.Decimal
