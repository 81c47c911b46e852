import PlaneNet.Layout

set_option autoImplicit false

namespace PlaneNet

inductive Connection where
  | meanX (unit : Nat)
  | meanY (unit : Nat)
  | variance (unit : Nat)
  | bias (layer unit : Nat)
  | edge (layer unit source : Nat)
  deriving Repr, DecidableEq

namespace Topology

def unitConnections (t : Topology) (layer unit : Nat) : List Connection :=
  if t.isGaussianLayer layer then [.meanX unit, .meanY unit, .variance unit]
  else .bias layer unit :: (List.range (t.width (layer - 1))).map (.edge layer unit)

def connections (t : Topology) : List Connection :=
  t.unitLayers.flatMap fun layer =>
    (List.range (t.width layer)).flatMap fun unit => t.unitConnections layer unit

end Topology

def Layout.connections (l : Layout) (t : Topology) : Except Error (List Connection) :=
  if t.connections.length = l.extent.weights then .ok t.connections
  else .error (.fault .lengthMismatch)

end PlaneNet
