import PlaneNet.Error

set_option autoImplicit false

namespace PlaneNet

structure Topology where
  sizes : List Nat
  /-- The first hidden layer holds Gaussian units instead of weighted sums. -/
  rbf : Bool
  deriving Repr, DecidableEq

namespace Topology

def inputWidth : Nat := 2

def outputWidth : Nat := 1

def fault? (sizes : List Nat) (rbf : Bool) : Option ConfigFault :=
  match sizes.head?, sizes.getLast? with
  | some input, some output =>
    if sizes.length < 2 then some .missingLayers
    else if input ≠ inputWidth then some (.inputWidth input)
    else if output ≠ outputWidth then some (.outputWidth output)
    else match sizes.findIdx? (· = 0) with
      | some layer => some (.emptyLayer layer)
      | none => if rbf && sizes.length < 3 then some .noGaussianRoom else none
  | _, _ => some .missingLayers

def ofSizes (sizes : List Nat) (rbf : Bool) : Except Error Topology :=
  match fault? sizes rbf with
  | some cause => .error (.invalidConfig cause)
  | none => .ok ⟨sizes, rbf⟩

-- Only the hidden widths are free; with none the network is a single perceptron.
def ofHidden (hidden : List Nat) (rbf : Bool) : Except Error Topology :=
  ofSizes (inputWidth :: hidden ++ [outputWidth]) rbf

def depth (t : Topology) : Nat := t.sizes.length

def width (t : Topology) (layer : Nat) : Nat := t.sizes.getD layer 0

def outputLayer (t : Topology) : Nat := t.sizes.length - 1

def isGaussianLayer (t : Topology) (layer : Nat) : Bool := t.rbf && layer == 1

def gaussianUnits (t : Topology) : Option Nat := if t.rbf then some (t.width 1) else none

-- Gaussian units are placed by clustering, not trained.
def firstTrained (t : Topology) : Nat := if t.rbf then 2 else 1

def trainedLayers (t : Topology) : List Nat :=
  List.range' t.firstTrained (t.depth - t.firstTrained)

def unitLayers (t : Topology) : List Nat := List.range' 1 (t.depth - 1)

end Topology

end PlaneNet
