import PlaneNet.KMeans
import PlaneNet.Trainer

set_option autoImplicit false

namespace PlaneNet

structure Builder (R : Type) where
  hidden : List Nat
  rbf : Bool
  activation : Option Activation
  config : Option (TrainConfig R)
  maxUpdates : Option Nat

namespace Builder

variable {W R G : Type} [Scalar R] [Exponential R] [Storage W R] [Random.Source G]

def ofHidden (hidden : List Nat) : Except Error (Builder R) :=
  if hidden.any (· == 0) then .error (.invalidConfig .emptyHidden)
  else .ok ⟨hidden, false, none, none, none⟩

def topology (b : Builder R) : Except Error Topology := Topology.ofHidden b.hidden b.rbf

structure Start (W R G : Type) where
  network : Network W R
  config : TrainConfig R
  words : G

def start (b : Builder R) (data : Dataset W) (words : G) : Except Error (Start W R G) := do
  let topology ← b.topology
  let config := b.config.getD (.ofTopology topology)
  config.validate
  if data.isEmpty then .error (.invalidData .noSamples) else
  let activation := b.activation.getD (.ofTopology topology)
  let (network, words) ← Network.ofStream topology activation words
  return ⟨network, config, words⟩

def finish (s : Start W R G) (data : Dataset W) (words : G) (clusters : List (Cluster R)) :
    Except Error (Trainer W R G) := do
  Trainer.ofParts (← s.network.installClusters clusters) data s.config words

def place (b : Builder R) (s : Start W R G) (data : Dataset W) : Reported (Except Error (Trainer W R G)) :=
  match s.network.topology.gaussianUnits with
  | none => ⟨[], Trainer.ofParts s.network data s.config s.words⟩
  | some k =>
    match KMeans.ofCount k b.maxUpdates with
    | .error e => ⟨[], .error e⟩
    | .ok m =>
      let fit := m.fit data s.words
      ⟨fit.result.events, fit.result.value.bind (finish s fit.data fit.words)⟩

def build (b : Builder R) (data : Dataset W) (words : G) :
    Reported (Except Error (Trainer W R G)) :=
  match b.start data words with
  | .error e => ⟨[], .error e⟩
  | .ok s =>
    let placed := b.place s data
    ⟨s.network.created :: placed.events, placed.value⟩

def buildWithSeed (b : Builder R) (data : Dataset W) (seed : UInt64) :
    Reported (Except Error (Trainer W R Random.Stream)) :=
  b.build data (.ofSeed seed)

end Builder

end PlaneNet
