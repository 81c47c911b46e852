import PlaneNet.Text.Count
import PlaneNet.Text.Quoted

set_option autoImplicit false

namespace PlaneNet

inductive Axis where
  | x
  | y
  deriving Repr, DecidableEq

def Axis.name : Axis → String
  | .x => "x"
  | .y => "y"

inductive LineFault where
  | fieldCount (line : String)
  | coordinate (axis : Axis) (field : String)
  | classText (field : String) (cause : Text.CountFault)
  | classRange (given : Nat)
  deriving Repr, DecidableEq

inductive DataFault where
  | line (cause : LineFault)
  | unopened (path reason : String)
  | unread (line : Nat) (reason : String)
  | unwritten (path reason : String)
  | weightCount (given expected : Nat)
  | noSamples
  | variance (cluster : Nat)
  deriving Repr, DecidableEq

inductive ConfigFault where
  | missingLayers
  | inputWidth (given : Nat)
  | outputWidth (given : Nat)
  | emptyLayer (layer : Nat)
  | emptyHidden
  | noGaussianRoom
  | activation (name : String)
  | learnRate (given : String)
  | momentum (given : String)
  | noCenters
  | fewSamples (centers samples : Nat)
  | startingCenters (expected given : Nat)
  | noGaussianLayer
  | clusterCount (units given : Nat)
  | weightBuffer (read held : Nat)
  | unread (path reason : String)
  | json
  deriving Repr, DecidableEq

inductive Fault where
  | outOfBounds
  | overflow
  | lengthMismatch
  | weightOrder
  deriving Repr, DecidableEq

inductive Error where
  | invalidData (cause : DataFault)
  | invalidConfig (cause : ConfigFault)
  | emptyCluster (cluster : Nat)
  | notConverged (updates : Nat)
  /-- Assignments came back to an earlier one and would do so forever. -/
  | endless
  | fault (cause : Fault)
  deriving Repr, DecidableEq

namespace LineFault

def error (cause : LineFault) : Error := .invalidData (.line cause)

def message : LineFault → String
  | fieldCount line => s!"expected \x60x y class\x60, got {Text.quoted line}"
  | coordinate axis field => s!"bad {axis.name} {Text.quoted field}: invalid float literal"
  | classText field cause => s!"bad class {Text.quoted field}: {cause.message}"
  | classRange given => s!"class must be 0 or 1, got {given}"

end LineFault

namespace DataFault

def message : DataFault → String
  | line cause => cause.message
  | unopened path reason => s!"failed to open {path}: {reason}"
  | unread number reason => s!"failed to read line {number}: {reason}"
  | unwritten path reason => s!"failed to write {path}: {reason}"
  | weightCount given expected =>
      s!"weights length {given} does not match topology weight count {expected}"
  | noSamples => "train dataset must not be empty"
  | variance cluster => s!"cluster {cluster} has non-positive variance"

end DataFault

namespace ConfigFault

def message : ConfigFault → String
  | missingLayers => "sizes must include input and output dims"
  | inputWidth given => s!"input layer must be 2 wide, got {given}"
  | outputWidth given => s!"output layer must be 1 wide, got {given}"
  | emptyLayer layer => s!"all layer sizes must be > 0, layer {layer} is empty"
  | emptyHidden => "hidden layer width must be > 0"
  | noGaussianRoom => "an rbf network needs at least one hidden layer"
  | activation name =>
      s!"unknown activation {Text.quoted name}, expected tanh, logistic, step or linear"
  | learnRate given => s!"learn rate must be finite and > 0, got {given}"
  | momentum given => s!"momentum must be finite and in [0,1), got {given}"
  | noCenters => "k-means needs k > 0"
  | fewSamples centers samples =>
      s!"k-means needs at least {centers} samples, dataset has {samples}"
  | startingCenters expected given => s!"expected {expected} starting centers, got {given}"
  | noGaussianLayer => "network has no rbf layer"
  | clusterCount units given => s!"rbf layer has {units} units, got {given} clusters"
  | weightBuffer read held => s!"shader reads {read} weights but the buffer holds {held}"
  | unread path reason => s!"failed to read {path}: {reason}"
  | json => "failed to parse config json"

end ConfigFault

namespace Fault

def message : Fault → String
  | outOfBounds => "index outside of a buffer"
  | overflow => "a size does not fit a machine word"
  | lengthMismatch => "buffers differ in length"
  | weightOrder => "weights are read in another order than they are stored"

end Fault

namespace Error

def message : Error → String
  | invalidData cause => s!"invalid data: {cause.message}"
  | invalidConfig cause => s!"invalid config: {cause.message}"
  | emptyCluster cluster => s!"empty cluster: rbf center {cluster} has no assigned samples"
  | notConverged updates => s!"k-means did not converge within {updates} iterations"
  | endless => "k-means repeats its assignments"
  | fault cause => cause.message

end Error

end PlaneNet
