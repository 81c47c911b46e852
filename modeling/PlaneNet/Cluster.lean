import PlaneNet.Scalar

set_option autoImplicit false

namespace PlaneNet

structure Cluster (R : Type) where
  meanX : R
  meanY : R
  variance : R
  deriving Repr

section

variable {R : Type} [Scalar R]

def Cluster.distanceSq (c : Cluster R) (x y : R) : R :=
  let dx := x - c.meanX
  let dy := y - c.meanY
  dx * dx + dy * dy

def gaussian [Exponential R] (x y meanX meanY variance : R) : R :=
  let dx := x - meanX
  let dy := y - meanY
  Exponential.exp (-(dx * dx + dy * dy) / (nat 2 * variance))

end

end PlaneNet
