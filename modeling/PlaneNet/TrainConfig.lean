import PlaneNet.Scalar
import PlaneNet.Topology

set_option autoImplicit false

namespace PlaneNet

inductive Mode where
  | fullPass
  | singleSample
  deriving Repr, DecidableEq

def Mode.name : Mode → String
  | .fullPass => "full_pass"
  | .singleSample => "single_sample"

structure TrainConfig (R : Type) where
  learnRate : R
  momentum : R
  mode : Mode
  deriving Repr

namespace TrainConfig

variable {R : Type} [Scalar R]

open Scalar (decimal zero one lt le isFinite text)

def plain : TrainConfig R := ⟨decimal 1 2, decimal 9 1, .fullPass⟩

def gaussian : TrainConfig R := ⟨decimal 1 4, decimal 95 2, .fullPass⟩

def ofTopology (t : Topology) : TrainConfig R := if t.rbf then gaussian else plain

def validate (c : TrainConfig R) : Except Error Unit :=
  if !(isFinite c.learnRate && lt zero c.learnRate) then
    .error (.invalidConfig (.learnRate (text c.learnRate)))
  else if !(isFinite c.momentum && (le zero c.momentum && lt c.momentum one)) then
    .error (.invalidConfig (.momentum (text c.momentum)))
  else .ok ()

end TrainConfig

end PlaneNet
