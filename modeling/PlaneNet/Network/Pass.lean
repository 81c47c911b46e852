import PlaneNet.Network

set_option autoImplicit false

namespace PlaneNet.Network

variable {W R : Type} [Scalar R] [Exponential R] [Storage W R]

open Scalar (zero)

def weightedSum (start : R) : List W → List R → R
  | w :: ws, v :: vs => weightedSum (start + widen w * v) ws vs
  | _, _ => start

def gaussianUnit (x y : R) : List W → Except Error R
  | [meanX, meanY, variance] => .ok (gaussian x y (widen meanX) (widen meanY) (widen variance))
  | _ => .error Buffer.outside

def gaussianLayer (weights : List W) : List R → Except Error (List R)
  | _ :: x :: y :: _ => do (← Buffer.rows gaussianWeights weights).mapM (gaussianUnit x y)
  | _ => .error Buffer.outside

def forwardLayer (n : Network W R) (layer : Nat) : Except Error (Network W R) := do
  let source := (← n.layout.layer (layer - 1)).values
  let spans ← n.layout.layer layer
  let (below, above) ← Buffer.cut spans.values.offset n.values
  let inputs ← Buffer.read source below
  let weights ← Buffer.read spans.weights n.weights
  let units : Span := ⟨1, spans.values.length - 1⟩
  if n.topology.isGaussianLayer layer then
    let above ← Buffer.write units (← gaussianLayer weights inputs) above
    return { n with values := below ++ above }
  else
    let slots ← n.layout.trained layer
    let starts ← Buffer.read slots n.preActivations
    let sums := List.zipWith (fun start row => weightedSum start row inputs) starts
      (← Buffer.rows source.length weights)
    let above ← Buffer.write units (sums.map n.activation.apply) above
    let preActivations ← Buffer.write slots sums n.preActivations
    return { n with values := below ++ above, preActivations }

def present (n : Network W R) (x y : W) : Except Error (Network W R) := do
  let inputs := (← n.layout.layer 0).values
  let values ← Buffer.write ⟨inputs.offset + 1, 2⟩ [widen x, widen y] n.values
  return { n with values
                  preActivations := n.preActivations.map fun _ => zero
                  errors := n.errors.map fun _ => zero }

def forward (n : Network W R) (x y : W) : Except Error (R × Network W R) := do
  let n ← n.present x y
  let n ← n.topology.unitLayers.foldlM forwardLayer n
  return (← n.output, n)

def predict (n : Network W R) (x y : W) : Except Error R := do
  return (← n.forward x y).1

-- Adds the error of one unit to those of its sources, each times its weight; the bias has no source.
def addErrors (errors : List R) : List W × R → List R
  | (row, e) => List.zipWith (fun sum w => sum + widen w * e) errors row.tail

/-- Adds to the errors of a layer what the layer above passes down. -/
def backwardLayer (n : Network W R) (layer : Nat) : Except Error (Network W R) := do
  let this ← n.layout.trained layer
  let next ← n.layout.trained (layer + 1)
  let (below, above) ← Buffer.cut next.offset n.errors
  let errors ← Buffer.read this below
  let nextErrors ← Buffer.read ⟨0, next.length⟩ above
  let weights ← Buffer.read (← n.layout.layer (layer + 1)).weights n.weights
  let rows ← Buffer.rows (this.length + 1) weights
  let below ← Buffer.write this ((rows.zip nextErrors).foldl addErrors errors) below
  return { n with errors := below ++ above }

def hiddenTrained (t : Topology) : List Nat :=
  (List.range' t.firstTrained (t.outputLayer - t.firstTrained)).reverse

/--
Sets the output error and passes it down. Errors are passed on linearly; the derivative enters in
`update`.
-/
def backward (n : Network W R) (target : R) : Except Error (R × Network W R) := do
  let slots ← n.layout.trained n.topology.outputLayer
  let e := target - (← n.output)
  let n := { n with errors := ← Buffer.write ⟨slots.offset, 1⟩ [e] n.errors }
  let n ← (hiddenTrained n.topology).foldlM backwardLayer n
  return (e, n)

def stepRow (delta coefficient : R) : List W → List R → List R → List W × List R
  | w :: ws, m :: ms, v :: vs =>
      let m' := delta * v + coefficient * m
      let (ws', ms') := stepRow delta coefficient ws ms vs
      (narrow (widen w + m') :: ws', m' :: ms')
  | ws, ms, _ => (ws, ms)

def stepRows (activation : Activation) (rate coefficient : R) (inputs : List R) :
    List (List W) → List (List R) → List R → List R → List (List W × List R)
  | ws :: wss, ms :: mss, z :: zs, e :: es =>
      stepRow (activation.derive z * e * rate) coefficient ws ms inputs
        :: stepRows activation rate coefficient inputs wss mss zs es
  | _, _, _, _ => []

def updateLayer (rate coefficient : R) (n : Network W R) (layer : Nat) :
    Except Error (Network W R) := do
  let source := (← n.layout.layer (layer - 1)).values
  let spans ← n.layout.layer layer
  let slots ← n.layout.trained layer
  let inputs ← Buffer.read source n.values
  let sums ← Buffer.read slots n.preActivations
  let errors ← Buffer.read slots n.errors
  let weightRows ← Buffer.rows source.length (← Buffer.read spans.weights n.weights)
  let momentumRows ← Buffer.rows source.length (← Buffer.read spans.weights n.momentums)
  let stepped := stepRows n.activation rate coefficient inputs weightRows momentumRows sums errors
  let weights ← Buffer.write spans.weights (stepped.flatMap (·.1)) n.weights
  let momentums ← Buffer.write spans.weights (stepped.flatMap (·.2)) n.momentums
  return { n with weights, momentums }

def update (n : Network W R) (rate coefficient : R) : Except Error (Network W R) :=
  n.topology.trainedLayers.foldlM (updateLayer rate coefficient) n

def train (n : Network W R) (x y : W) (target rate coefficient : R) :
    Except Error (R × Network W R) := do
  let (_, n) ← n.forward x y
  let (e, n) ← n.backward target
  return (e, ← n.update rate coefficient)

end PlaneNet.Network
