import PlaneNet.Network

set_option autoImplicit false

namespace PlaneNet

abbrev InPlace (W R : Type) := EStateM Error (Network W R)

namespace InPlace

variable {W R α : Type}

def look (access : Network W R → Except Error α) : InPlace W R α := fun n =>
  match access n with
  | .ok a => .ok a n
  | .error e => .error e n

def change (step : Network W R → Except Error (Network W R)) : InPlace W R Unit := fun n =>
  match step n with
  | .ok after => .ok () after
  | .error e => .error e n

end InPlace

namespace Network

variable {W R : Type} [Scalar R] [Storage W R]

open Scalar (zero)

def placeUnit (offset : Nat) : Nat × Cluster R → InPlace W R Unit
  | (unit, c) => do
    let start := offset + unit * gaussianWeights
    InPlace.change (·.setWeight start (narrow c.meanX))
    InPlace.change (·.setWeight (start + 1) (narrow c.meanY))
    InPlace.change (·.setWeight (start + 2) (narrow c.variance))

-- The units of the layer are paired with the clusters until either run out.
def placeClusters (clusters : List (Cluster R)) : InPlace W R Unit := do
  let span := (← InPlace.look (·.layout.layer 1)).weights
  let cells ← InPlace.look (Buffer.read span ·.weights)
  ((List.range (cells.length / gaussianWeights)).zip clusters).forM (placeUnit span.offset)

def clearMomentums : InPlace W R Unit :=
  modify fun n => { n with momentums := n.momentums.map fun _ => zero }

/-- `installClusters` on a network that stays what it has become when this fails. -/
def install (clusters : List (Cluster R)) : InPlace W R Unit := do
  match (← get).clusterFault? clusters with
  | some e => throw e
  | none =>
    placeClusters clusters
    clearMomentums

end Network

end PlaneNet
