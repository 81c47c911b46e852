import PlaneNet.Binary.Format

set_option autoImplicit false

namespace PlaneNet.Binary

def ofDouble (x : Float) : Encoded :=
  let bits : UInt64 := x.toBits
  ⟨bits >>> 63 ≠ 0, (bits &&& 0x7fffffffffffffff).toNat⟩

def toDouble (x : Encoded) : Float :=
  let sign : UInt64 := if x.negative then 0x8000000000000000 else 0
  Float.ofBits (sign ||| UInt64.ofNat x.magnitude)

def ofSingle (x : Float32) : Encoded :=
  let bits : UInt32 := x.toBits
  ⟨bits >>> 31 ≠ 0, (bits &&& 0x7fffffff).toNat⟩

def toSingle (x : Encoded) : Float32 :=
  let sign : UInt32 := if x.negative then 0x80000000 else 0
  Float32.ofBits (sign ||| UInt32.ofNat x.magnitude)

def infinity : Float := toDouble (double.infinite false)

def widen (x : Float32) : Float := toDouble (single.convert double (ofSingle x))

def narrow (x : Float) : Float32 := toSingle (double.convert single (ofDouble x))

end PlaneNet.Binary
