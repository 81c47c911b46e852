import PlaneNet.Scalar
import PlaneNet.Decimal.Shortest

set_option autoImplicit false

namespace PlaneNet

instance : Scalar Float where
  nat := Float.ofNat
  decimal m k := Float.ofScientific m true k
  lt a b := a < b
  le a b := a ≤ b
  isFinite := Float.isFinite
  belowInfinity x := x < Binary.infinity
  text := Decimal.shortest

instance : Exponential Float where
  exp := Float.exp

namespace Binary

def initRange : Float32 := 0.5

-- The upper 23 bits of the word are the fraction of a number in `[1, 2)`.
def ofRandomWord (word : UInt32) : Float32 :=
  Float32.ofBits ((0x3f800000 : UInt32) ||| (word >>> 9)) - 1 + (-initRange)

end Binary

instance : Storage Float32 Float where
  widen := Binary.widen
  narrow := Binary.narrow
  ofRandomWord := Binary.ofRandomWord

end PlaneNet
