import PlaneNet.Buffer
import PlaneNet.Topology
import PlaneNet.Word

set_option autoImplicit false

namespace PlaneNet

def gaussianWeights : Nat := 3

structure LayerSpans where
  /-- Per unit a bias weight and one weight per source, or the three numbers of a Gaussian unit.
  Momentums stand as the weights do. -/
  weights : Span
  values : Span
  /-- Pre-activations and errors, one each per unit; only trained layers have them. -/
  slots : Option Span
  deriving Repr, DecidableEq

structure Extent where
  weights : Nat
  values : Nat
  slots : Nat
  deriving Repr, DecidableEq

structure Layout where
  layers : List LayerSpans
  extent : Extent
  deriving Repr, DecidableEq

namespace Layout

def place (used : Extent) (weights values : Nat) (slots : Option Nat) :
    Except Error (LayerSpans × Extent) := do
  let weightsEnd ← Word.add used.weights weights
  let valuesEnd ← Word.add used.values values
  let slotsEnd ← Word.add used.slots (slots.getD 0)
  return ({ weights := ⟨used.weights, weights⟩
            values := ⟨used.values, values⟩
            slots := slots.map (⟨used.slots, ·⟩) },
    ⟨weightsEnd, valuesEnd, slotsEnd⟩)

def countWeights (gaussian : Bool) (previous width : Nat) : Except Error Nat :=
  if gaussian then Word.mul gaussianWeights width
  else do Word.mul (← Word.add previous 1) width

def placeLayers : Extent → Bool → Nat → List Nat → Except Error (List LayerSpans × Extent)
  | used, _, _, [] => .ok ([], used)
  | used, gaussian, previous, width :: rest => do
    let weights ← countWeights gaussian previous width
    let values ← Word.add width 1
    let (spans, used) ← place used weights values (if gaussian then none else some width)
    let (above, used) ← placeLayers used false width rest
    return (spans :: above, used)

def ofTopology (t : Topology) : Except Error Layout :=
  match t.sizes with
  | [] => .error Buffer.outside
  | input :: rest => do
    let (inputs, used) ← place ⟨0, 0, 0⟩ 0 (← Word.add input 1) none
    let (above, used) ← placeLayers used t.rbf input rest
    return ⟨inputs :: above, used⟩

def layer (l : Layout) (i : Nat) : Except Error LayerSpans := Buffer.cell i l.layers

def trained (l : Layout) (i : Nat) : Except Error Span := do
  match (← l.layer i).slots with
  | some s => return s
  | none => .error Buffer.outside

-- Where the weight from `input` into a unit of a weighted-sum layer stands; input `0` is the bias.
def weightIndex (l : Layout) (layer unit input : Nat) : Except Error Nat := do
  if layer = 0 then .error Buffer.outside else
  let source := (← l.layer (layer - 1)).values
  if source.length ≤ input then .error Buffer.outside else
  let row ← Word.mul unit source.length
  Word.add (← Word.add (← l.layer layer).weights.offset row) input

end Layout

end PlaneNet
