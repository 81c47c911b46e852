import PlaneNet.Activation
import PlaneNet.Cluster
import PlaneNet.Event
import PlaneNet.Layout
import PlaneNet.Random.Source

set_option autoImplicit false

namespace PlaneNet

structure Network (W R : Type) where
  topology : Topology
  layout : Layout
  activation : Activation
  weights : List W
  momentums : List R
  values : List R
  preActivations : List R
  errors : List R
  deriving Repr

namespace Network

variable {W R : Type} [Scalar R] [Storage W R]

open Scalar (zero one lt)

def fillBias (layers : List LayerSpans) (values : List R) : Except Error (List R) :=
  layers.foldlM (fun values l => Buffer.write ⟨l.values.offset, 1⟩ [one] values) values

def ofLayout (topology : Topology) (layout : Layout) (activation : Activation) (weights : List W) :
    Except Error (Network W R) := do
  let values ← fillBias layout.layers (List.replicate layout.extent.values zero)
  return { topology, layout, activation, weights, values
           momentums := List.replicate layout.extent.weights zero
           preActivations := List.replicate layout.extent.slots zero
           errors := List.replicate layout.extent.slots zero }

def ofWeights (topology : Topology) (activation : Activation) (weights : List W) :
    Except Error (Network W R) := do
  let layout ← Layout.ofTopology topology
  if weights.length ≠ layout.extent.weights then
    .error (.invalidData (.weightCount weights.length layout.extent.weights))
  else ofLayout topology layout activation weights

-- Draws every weight. Those of Gaussian units are placeholders until clusters are installed.
def ofStream {G : Type} [Random.Source G] (topology : Topology) (activation : Activation) (words : G) :
    Except Error (Network W R × G) := do
  let layout ← Layout.ofTopology topology
  let (drawn, words) := Random.Source.take layout.extent.weights words
  let network ← ofLayout topology layout activation (drawn.map Storage.ofRandomWord)
  return (network, words)

def ofSeed (topology : Topology) (activation : Activation) (seed : UInt64) :
    Except Error (Network W R) := do
  return (← ofStream topology activation (Random.Stream.ofSeed seed)).1

def created (n : Network W R) : Event :=
  .network n.topology.sizes n.topology.rbf n.layout.extent.weights n.activation.name

def layerValues (n : Network W R) (layer : Nat) : Except Error (List R) := do
  Buffer.read (← n.layout.layer layer).values n.values

def output (n : Network W R) : Except Error R := do
  let spans ← n.layout.layer n.topology.outputLayer
  Buffer.cell (spans.values.offset + 1) n.values

def setWeight (n : Network W R) (i : Nat) (w : W) : Except Error (Network W R) := do
  return { n with weights := ← Buffer.write ⟨i, 1⟩ [w] n.weights }

def clusterFault? (n : Network W R) (clusters : List (Cluster R)) : Option Error :=
  match n.topology.gaussianUnits with
  | none => some (.invalidConfig .noGaussianLayer)
  | some k =>
    if clusters.length ≠ k then some (.invalidConfig (.clusterCount k clusters.length))
    else match clusters.findIdx? (fun c => !lt zero c.variance) with
      | some i => some (.invalidData (.variance i))
      | none => none

def clusterWeights (c : Cluster R) : List W := [narrow c.meanX, narrow c.meanY, narrow c.variance]

def installClusters (n : Network W R) (clusters : List (Cluster R)) : Except Error (Network W R) :=
  match n.clusterFault? clusters with
  | some e => .error e
  | none => do
    let span := (← n.layout.layer 1).weights
    let weights ← Buffer.write span (clusters.flatMap clusterWeights) n.weights
    return { n with weights, momentums := n.momentums.map fun _ => zero }

end Network

def Network.weightBytes (n : Network Float32 Float) : List UInt8 :=
  n.weights.flatMap fun w =>
    let bits : UInt32 := w.toBits
    [bits.toUInt8, UInt32.toUInt8 (bits >>> 8), UInt32.toUInt8 (bits >>> 16), UInt32.toUInt8 (bits >>> 24)]

end PlaneNet
