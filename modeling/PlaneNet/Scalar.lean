
set_option autoImplicit false

namespace PlaneNet

/--
Numbers to compute with. No law is asked of the operations: what is proved for every `Scalar` holds
for rounded machine numbers and for exact ones.
-/
class Scalar (R : Type) extends Add R, Sub R, Mul R, Div R, Neg R where
  nat : Nat → R
  /-- `decimal m k` is `m` divided by the `k`-th power of ten. -/
  decimal : Nat → Nat → R
  lt : R → R → Bool
  le : R → R → Bool
  isFinite : R → Bool
  belowInfinity : R → Bool
  text : R → String

class Exponential (R : Type) where
  exp : R → R

/-- Weights are kept in a narrower number type `W` and computed with in `R`. -/
class Storage (W : Type) (R : outParam Type) where
  widen : W → R
  narrow : R → W
  /-- The number of `[-1/2, 1/2)` that a random word stands for. -/
  ofRandomWord : UInt32 → W

export Scalar (nat)
export Storage (widen narrow)

namespace Scalar

variable {R : Type} [Scalar R]

def zero : R := nat 0

def one : R := nat 1

def half : R := decimal 5 1

/-- Left-to-right sum that starts at negative zero, the neutral element of rounded addition. -/
def sum (xs : List R) : R := xs.foldl (· + ·) (-zero)

/-- `lo ≤ x ≤ hi`; false when a comparison with `x` is. -/
def within (lo hi x : R) : Bool := le lo x && le x hi

end Scalar

end PlaneNet
